/-
  Switchyard.Config.Document
  ──────────────────────────
  Configurations in TOML documents.  A section is a table whose entries set
  fields by name; an array sets the section's fields by position instead, and
  a date sets none.  What is not set keeps its default, and entries that name
  no field are passed over.  A field that is set has to be of its type.
-/
import Switchyard.Config.Violation
import Switchyard.Files.System
import Switchyard.Text.Quoted
import Switchyard.Toml.Document

namespace Switchyard

namespace Setting

open Toml (Value)

/-! ## §1. Values of fields. -/

def text? : Value → Option String
  | .text s => some s
  | _ => none

def flag? : Value → Option Bool
  | .boolean b => some b
  | _ => none

/-- A natural number below a bound. -/
def natBelow? (bound : Nat) : Value → Option Nat
  | .integer n => if 0 ≤ n ∧ n < bound then some n.toNat else none
  | _ => none

/-- A number of 64 bits, such as a count or a span in seconds. -/
def word? : Value → Option Nat := natBelow? UInt64.size

def port? (v : Value) : Option UInt16 := (natBelow? UInt16.size v).map UInt16.ofNat

def texts? : Value → Option (List String)
  | .array items => items.mapM text?
  | _ => none

/-- A log format by its name, as a text or as the only key of a table that
has nothing under it. -/
def logFormat? : Value → Option LogFormat
  | .text name => named name
  | .table [(name, .table [])] | .table [(name, .array [])] => named name
  | _ => none
where
  named (name : String) : Option LogFormat :=
    [.pretty, .json].find? fun f => LogFormat.name f = name

/-! ## §2. Sections. -/

/-- What a section sets, by the names of its fields. -/
def members? (fields : List String) : Value → Option (List (String × Value))
  | .table entries => some entries
  | .array items => some (fields.zip items)
  | .dateTime => some []
  | _ => none

/-- A field that may be left out. -/
def field {α : Type} (members : List (String × Value)) (name : String) (unset : α)
    (read : Value → Option α) : Option α :=
  match members.lookup name with
  | some v => read v
  | none => some unset

/-- A field that has to be set. -/
def required {α : Type} (members : List (String × Value)) (name : String)
    (read : Value → Option α) : Option α :=
  members.lookup name >>= read

def tls? (v : Value) : Option TlsConfig := do
  let set ← members? ["port", "cert_path", "key_path"] v
  return {
    port := ← required set "port" port?
    certPath := ← required set "cert_path" text?
    keyPath := ← required set "key_path" text? }

def listener? (v : Value) : Option ListenerConfig := do
  let set ← members? ["host", "port", "port_retry_attempts", "keep_alive",
    "header_read_timeout_secs", "handshake_timeout_secs", "max_body_bytes", "tls"] v
  let unset : ListenerConfig := {}
  return {
    host := ← field set "host" unset.host text?
    port := ← field set "port" unset.port port?
    portRetryAttempts :=
      ← field set "port_retry_attempts" unset.portRetryAttempts (natBelow? UInt32.size)
    keepAlive := ← field set "keep_alive" unset.keepAlive flag?
    headerReadTimeoutSeconds :=
      ← field set "header_read_timeout_secs" unset.headerReadTimeoutSeconds word?
    handshakeTimeoutSeconds :=
      ← field set "handshake_timeout_secs" unset.handshakeTimeoutSeconds word?
    maxBodyBytes := ← field set "max_body_bytes" unset.maxBodyBytes word?
    tls := ← field set "tls" none fun v => (tls? v).map some }

def workers? (v : Value) : Option WorkerConfig := do
  let set ← members? ["count", "queue_capacity", "drain_timeout_secs"] v
  let unset : WorkerConfig := {}
  return {
    count := ← field set "count" unset.count fun v => (word? v).map .exactly
    queueCapacity := ← field set "queue_capacity" unset.queueCapacity word?
    drainTimeoutSeconds := ← field set "drain_timeout_secs" unset.drainTimeoutSeconds word? }

def cache? (v : Value) : Option CacheConfig := do
  let set ← members? ["enabled", "ttl_secs", "max_entries", "persistence_path"] v
  let unset : CacheConfig := {}
  return {
    enabled := ← field set "enabled" unset.enabled flag?
    ttlSeconds := ← field set "ttl_secs" unset.ttlSeconds word?
    maxEntries := ← field set "max_entries" unset.maxEntries word?
    persistencePath := ← field set "persistence_path" none fun v => (text? v).map some }

def staticFiles? (v : Value) : Option StaticFilesConfig := do
  let set ← members? ["enabled", "root", "index", "default_extension", "exclude_extensions"] v
  let unset : StaticFilesConfig := {}
  return {
    enabled := ← field set "enabled" unset.enabled flag?
    root := ← field set "root" unset.root text?
    index := ← field set "index" unset.index text?
    defaultExtension := ← field set "default_extension" unset.defaultExtension text?
    excludeExtensions := ← field set "exclude_extensions" unset.excludeExtensions texts? }

def observability? (v : Value) : Option ObservabilityConfig := do
  let set ← members? ["log_level", "log_format", "metrics_enabled", "metrics_address"] v
  let unset : ObservabilityConfig := {}
  return {
    logLevel := ← field set "log_level" unset.logLevel text?
    logFormat := ← field set "log_format" unset.logFormat logFormat?
    metricsEnabled := ← field set "metrics_enabled" unset.metricsEnabled flag?
    metricsAddress := ← field set "metrics_address" unset.metricsAddress text? }

def admin? (v : Value) : Option AdminConfig := do
  let set ← members? ["enabled", "api_key"] v
  let unset : AdminConfig := {}
  return {
    enabled := ← field set "enabled" unset.enabled flag?
    apiKey := ← field set "api_key" unset.apiKey text? }

end Setting

/-! ## §3. Whole configurations. -/

/-- Why a server does not get its configuration. -/
inductive ConfigError where
  | unreadable (path : String) (error : FileError)
  /-- The text is no TOML document, or sets a field to a value of another type. -/
  | malformed
  | invalid (violations : List Violation)
  deriving DecidableEq, Repr

def ConfigError.message : ConfigError → String
  | .unreadable path error => "failed to read " ++ Text.quoted path ++ ": " ++ error.message
  | .malformed => "parse error"
  | .invalid violations =>
      "validation failed: " ++ ", ".intercalate (violations.map Violation.message)

namespace Config

open Setting

/-- The configuration that the entries of a document set. -/
def ofValue? (v : Toml.Value) : Option Config := do
  let set ← members? ["hostname", "debug", "listener", "workers", "cache", "static_files",
    "observability", "admin"] v
  let unset : Config := {}
  return {
    hostname := ← field set "hostname" unset.hostname text?
    debug := ← field set "debug" unset.debug flag?
    listener := ← field set "listener" unset.listener listener?
    workers := ← field set "workers" unset.workers workers?
    cache := ← field set "cache" unset.cache cache?
    staticFiles := ← field set "static_files" unset.staticFiles staticFiles?
    observability := ← field set "observability" unset.observability observability?
    admin := ← field set "admin" unset.admin admin? }

/-- The configuration that a text spells, valid or not. -/
def decode? (text : String) : Option Config := Toml.parse? text >>= ofValue?

/-- The valid configuration that a text spells. -/
def parse (text : String) : Except ConfigError Config :=
  match decode? text with
  | none => .error .malformed
  | some c => if c.IsValid then .ok c else .error (.invalid c.violations)

/-- The valid configuration in the file at a path, given its content. -/
def ofFile (path : String) (content : Except FileError String) : Except ConfigError Config :=
  match content with
  | .error e => .error (.unreadable path e)
  | .ok text => parse text

end Config

end Switchyard
