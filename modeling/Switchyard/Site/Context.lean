/-
  Switchyard.Site.Context
  ───────────────────────
  Everything that the handlers of a server share besides the cache, and the
  endpoints that the server brings along: echoes of the request for debugging,
  the admin routes and the static files.  `α` stands for the handlers of an
  application and `ω` for what they keep.
-/
import Switchyard.Json.Value
import Switchyard.Net.Address
import Switchyard.Net.Connections
import Switchyard.Server.Lifecycle
import Switchyard.Site.Access
import Switchyard.Site.Dispatch
import Switchyard.Site.Files

namespace Switchyard

/-- The name that the program goes by in what it prints. -/
def programName : String := "dispatch-server"

/-- The version that a server tells of itself. -/
def version : String := "0.1.0"

/-! ## §1. What is shared. -/

/-- What an admin route does. -/
inductive AdminAction where
  | status
  | routes
  | cacheStats
  | clearCache
  deriving DecidableEq, Repr, Inhabited

inductive Endpoint (α : Type) where
  /-- A handler of the application. -/
  | app (handler : α)
  | echoText
  | echoJson
  /-- An admin route that a key opens. -/
  | admin (key : String) (action : AdminAction)
  | files (source : StaticFiles)
  deriving Inhabited

/-- The addresses that a server listens at. -/
structure BoundAddresses where
  plain : SocketAddress
  tls : Option SocketAddress
  deriving DecidableEq, Repr, Inhabited

structure Context (α ω : Type) where
  config : Config
  routes : RouteTable (Endpoint α)
  lifecycle : Lifecycle
  connections : Connections
  /-- The addresses, once they are bound. -/
  addresses : Option BoundAddresses
  /-- For how long the server has been there. -/
  uptimeSeconds : Nat
  files : FileSystem
  app : ω
  deriving Inhabited

/-- What the handlers of a new server share. -/
def Context.new {α ω : Type} (config : Config) (routes : RouteTable (Endpoint α))
    (files : FileSystem) (app : ω) : Context α ω :=
  { config, routes, lifecycle := .created, connections := .zero, addresses := none,
    uptimeSeconds := 0, files, app }

/-! ## §2. Echoes of a request. -/

namespace Request

def echoText (r : Request) : String :=
  s!"{r.method.token} {r.path} ({r.id}) from {r.peer} over {r.transport.scheme}\n"
    ++ String.join (r.params.map fun (name, value) => s!"{name} = {value}\n")

def echoJson (r : Request) : Json :=
  .object [("request_id", .text r.id), ("method", .text r.method.token), ("path", .text r.path),
    ("query", Json.optionalText r.query),
    ("params", .array (r.params.map fun (name, value) => .array [.text name, .text value])),
    ("peer_addr", .text r.peer), ("transport", .text r.transport.scheme),
    ("body_bytes", .number r.body.length)]

end Request

/-! ## §3. Reports for admins. -/

def BoundAddresses.toJson (a : BoundAddresses) : Json :=
  .object [("http", .text a.plain.text), ("https", Json.optionalText (a.tls.map SocketAddress.text))]

def Cache.Stats.toJson (s : Cache.Stats) : Json :=
  .object [("enabled", .bool s.enabled), ("entries", .number s.entries),
    ("hits", .number s.hits.toNat), ("misses", .number s.misses.toNat),
    ("ttl_secs", .number s.ttlSeconds)]

/-- The bindings in order, each with its place. -/
def RouteTable.toJson {η : Type} (t : RouteTable η) : Json :=
  .array (t.bindings.zipIdx.map fun (b, priority) =>
    .object [("priority", .number priority), ("name", .text b.name),
      ("pattern", .text b.pattern.source), ("methods", .text b.methods.label),
      ("cacheable", .bool b.cacheable)])

variable {α ω : Type}

def Context.statusJson (c : Context α ω) : Json :=
  .object [("version", .text version), ("state", .text c.lifecycle.name),
    ("uptime_secs", .number c.uptimeSeconds),
    ("active_connections", .number c.connections.active.toNat),
    ("routes", .number c.routes.size),
    ("addresses", match c.addresses with
      | some a => a.toJson
      | none => .null)]

/-- What an admin route answers, and the site after it. -/
def AdminAction.perform (action : AdminAction) (site : Site (Context α ω)) :
    Json × Site (Context α ω) :=
  match action with
  | .status => (site.world.statusJson, site)
  | .routes => (site.world.routes.toJson, site)
  | .cacheStats => (site.cache.stats.toJson, site)
  | .clearCache =>
      (.object [("evicted", .number site.cache.entries.size)],
        { site with cache := site.cache.clear })

/-! ## §4. What endpoints do. -/

/-- A handler that answers and leaves the site as it was. -/
def Site.reply (site : Site ω) (response : Response) : Handled ω := ⟨.reply response, site, []⟩

/-- The endpoints' handlers, given those of the application. -/
def Endpoint.handle (app : Handling α (Context α ω)) : Handling (Endpoint α) (Context α ω) :=
  fun endpoint request site =>
    match endpoint with
    | .app handler => app handler request site
    | .echoText => site.reply (.text (Utf8.encode request.echoText))
    | .echoJson => site.reply (.json request.echoJson)
    | .admin key action =>
        if Access.isGranted key request.headers then
          let (report, site) := action.perform site
          site.reply (.json report)
        else
          { outcome := .reply (.ofStatus .unauthorized), site
            events := [.accessDenied request.path request.peer] }
    | .files source => ⟨source.answer site.world.files request.params, site, []⟩

end Switchyard
