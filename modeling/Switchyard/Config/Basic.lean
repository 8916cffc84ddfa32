/-
  Switchyard.Config.Basic
  ────────────────────────
  The configuration of a server, section by section, with its default values.
-/
import Switchyard.Cache.Basic

namespace Switchyard

/-- Where and with what the TLS listener listens. -/
structure TlsConfig where
  port : UInt16
  certPath : String
  keyPath : String
  deriving DecidableEq, Repr, Inhabited

structure ListenerConfig where
  host : String := "0.0.0.0"
  /-- The plain port; zero leaves the choice to the system. -/
  port : UInt16 := 1337
  /-- How many ports are tried, one after the other. -/
  portRetryAttempts : Nat := 32
  keepAlive : Bool := true
  headerReadTimeoutSeconds : Nat := 30
  handshakeTimeoutSeconds : Nat := 10
  maxBodyBytes : Nat := 2 * 1024 * 1024
  tls : Option TlsConfig := none
  deriving DecidableEq, Repr, Inhabited

/-- How many workers there are. -/
inductive WorkerCount where
  /-- As many as the machine can run at a time. -/
  | auto
  | exactly (n : Nat)
  deriving DecidableEq, Repr, Inhabited

structure WorkerConfig where
  count : WorkerCount := .auto
  /-- How many connections may wait for a worker. -/
  queueCapacity : Nat := 256
  drainTimeoutSeconds : Nat := 30
  deriving DecidableEq, Repr, Inhabited

structure CacheConfig where
  enabled : Bool := true
  /-- How long an answer is kept; zero stands for no limit. -/
  ttlSeconds : Nat := 0
  maxEntries : Nat := 10000
  persistencePath : Option String := none
  deriving DecidableEq, Repr, Inhabited

structure StaticFilesConfig where
  enabled : Bool := true
  /-- The directory that files are served from. -/
  root : String := "./public"
  /-- The file that is served for the path `/`, without its extension. -/
  index : String := "index"
  /-- The extension of a file that is asked for without one. -/
  defaultExtension : String := "html"
  /-- Extensions that are never served. -/
  excludeExtensions : List String := ["txt"]
  deriving DecidableEq, Repr, Inhabited

inductive LogFormat where
  | pretty
  | json
  deriving DecidableEq, Repr, Inhabited

def LogFormat.name : LogFormat → String
  | .pretty => "pretty"
  | .json => "json"

structure ObservabilityConfig where
  logLevel : String := "info"
  logFormat : LogFormat := .pretty
  metricsEnabled : Bool := false
  metricsAddress : String := "0.0.0.0:9090"
  deriving DecidableEq, Repr, Inhabited

structure AdminConfig where
  enabled : Bool := false
  apiKey : String := ""
  deriving DecidableEq, Repr, Inhabited

structure Config where
  hostname : String := "localhost"
  debug : Bool := false
  listener : ListenerConfig := {}
  workers : WorkerConfig := {}
  cache : CacheConfig := {}
  staticFiles : StaticFilesConfig := {}
  observability : ObservabilityConfig := {}
  admin : AdminConfig := {}
  deriving DecidableEq, Repr, Inhabited

/-- The time to live of cached answers, if there is a limit. -/
def CacheConfig.ttl? (c : CacheConfig) : Option Duration :=
  if c.ttlSeconds = 0 then none else some (.ofSeconds c.ttlSeconds)

/-- The empty cache that a configuration asks for. -/
def Cache.ofConfig (c : CacheConfig) : Cache :=
  Cache.new c.enabled c.ttlSeconds c.maxEntries c.persistencePath

end Switchyard
