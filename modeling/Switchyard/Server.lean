/-
  Switchyard.Server
  ─────────────────
  A server from its configuration to its end.  Starting it registers the
  built-in routes, finds the ports, warms the cache and takes on workers;
  stopping it undoes this and saves the cache.  What the machine contributes is
  a `Host`; each operation is told the host as it finds it.

  The plain listener is required.  A TLS listener that does not come up is
  reported and left out.
-/
import Switchyard.Net.KeyFiles
import Switchyard.Net.Listener
import Switchyard.Server.Pool
import Switchyard.Site.Builtin
import Switchyard.Site.Upkeep

namespace Switchyard

/-! ## §1. The machine. -/

structure Host where
  network : Network
  /-- Whether a certificate and a key can be used for TLS. -/
  usableKeys : Bytes → Bytes → Bool
  /-- How many threads run at a time. -/
  parallelism : Nat
  /-- Whether the workers finish their connections before they have to. -/
  drainsInTime : Bool
  /-- What the clock shows. -/
  now : Nat

/-- How many workers are wanted on a host. -/
def WorkerCount.on (host : Host) : WorkerCount → Nat
  | .auto => host.parallelism
  | .exactly n => n

/-- Why there is no TLS listener. -/
inductive TlsError where
  | keys (error : KeyFileError)
  | bind (host : String) (port : UInt16) (error : BindError)
  deriving DecidableEq, Repr, Inhabited

def TlsError.message : TlsError → String
  | .keys error => "failed to load TLS material: " ++ error.message
  | .bind host port error => (ListenerError.bind host port error).message

/-- Binds the TLS listener on exactly its port. -/
def Host.bindTls (h : Host) (fs : FileSystem) (name : String) (c : TlsConfig) :
    Except TlsError SocketAddress := do
  let _ ← (loadKeys h.usableKeys fs c.certPath c.keyPath).mapError .keys
  (h.network.bind name c.port).mapError (.bind name c.port)

/-- Binds the listeners that a configuration asks for, the plain one first. -/
def Host.bindAll (h : Host) (fs : FileSystem) (c : ListenerConfig) :
    Except ListenerError (BoundAddresses × List Event) := do
  let plain ← Listener.bindFrom (h.network.bind c.host) c.host c.port c.portRetryAttempts
  match c.tls with
  | none => return (⟨plain, none⟩, [])
  | some tls =>
      match { h with network := h.network.take plain }.bindTls fs c.host tls with
      | .ok address => return (⟨plain, some address⟩, [])
      | .error e => return (⟨plain, none⟩, [.tlsNotStarted e.message tls.port])

/-! ## §2. The server. -/

/-- Why a server does not do what it is asked for. -/
inductive ServerError where
  | lifecycle (error : InvalidTransition)
  | listener (error : ListenerError)
  | routes (error : RouteError)
  deriving DecidableEq, Repr

def ServerError.message : ServerError → String
  | .lifecycle error => error.message
  | .listener error => error.message
  | .routes error => "failed to register built-in routes: " ++ error.message

/-- A server with its site, the sockets that accept connections, and the
workers, if it has them. -/
structure Server (α ω : Type) where
  site : Site (Context α ω)
  listeners : List SocketAddress
  pool : Option (Pool Nat)
  deriving Inhabited

namespace Server

variable {α ω : Type}

/-- A server with the routes of an application. -/
def new (config : Config) (routes : RouteTable (Endpoint α)) (files : FileSystem) (app : ω) :
    Server α ω :=
  { site := ⟨Cache.ofConfig config.cache, Context.new config routes files app⟩
    listeners := [], pool := none }

def context (s : Server α ω) : Context α ω := s.site.world

def state (s : Server α ω) : Lifecycle := s.context.lifecycle

def withContext (s : Server α ω) (c : Context α ω) : Server α ω :=
  { s with site := { s.site with world := c } }

/-- Registers the built-in routes.  The state moves on first, so it stays
`initialized` if a route is refused. -/
def prepare (s : Server α ω) : Except ServerError Unit × Server α ω :=
  match s.state.transition .initialized with
  | .error e => (.error (.lifecycle e), s)
  | .ok lifecycle =>
      let (done, c) := { s.context with lifecycle }.registerBuiltins
      (done.mapError .routes, s.withContext c)

/-- Takes over the sockets that were bound: warms the cache, takes on workers
and runs. -/
def accept (s : Server α ω) (host : Host) (addresses : BoundAddresses) : Server α ω × List Event :=
  let (site, events) := s.site.warm host.now
  let c := site.world
  let workers := c.config.workers
  ({ site := { site with
       world := { c with addresses := c.addresses <|> some addresses, lifecycle := .running } }
     listeners := addresses.plain :: addresses.tls.toList
     pool := some (Pool.start (workers.count.on host) workers.queueCapacity) }, events)

/-- Starts the server: prepares it if that was not done, and accepts
connections once the sockets are bound.  Tells their addresses. -/
def start (s : Server α ω) (host : Host) :
    Except ServerError BoundAddresses × Server α ω × List Event :=
  let (ready, s) := if s.state = .created then s.prepare else (.ok (), s)
  match ready with
  | .error e => (.error e, s, [])
  | .ok () =>
      if s.state ≠ .initialized then (.error (.lifecycle ⟨s.state, .running⟩), s, [])
      else match host.bindAll s.context.files s.context.config.listener with
        | .error e => (.error (.listener e), s, [])
        | .ok (addresses, bindEvents) =>
            let (s, events) := s.accept host addresses
            (.ok addresses, s, bindEvents ++ events)

/-- Closes the sockets, drains the workers and saves the cache.  What fails of
this is reported, and the server is stopped all the same. -/
def shutDown (s : Server α ω) (host : Host) : Server α ω × List Event :=
  let drainEvents := if s.pool.isSome && !host.drainsInTime then
    [.drainTimedOut s.context.connections.active.toNat] else []
  let (saved, site) := s.site.save
  let saveEvents := match saved with
    | .ok _ => []
    | .error e => [.snapshotNotSaved e]
  ({ site := { site with world := { site.world with lifecycle := .stopped } }
     listeners := [], pool := none }, drainEvents ++ saveEvents)

/-- Stops the server, whether it was started or not. -/
def stop (s : Server α ω) (host : Host) : Except InvalidTransition Unit × Server α ω × List Event :=
  match s.state with
  | .created | .initialized => (.ok (), s.withContext { s.context with lifecycle := .stopped }, [])
  | state =>
      match state.transition .stopping with
      | .error e => (.error e, s, [])
      | .ok _ =>
          let (s, events) := s.shutDown host
          (.ok (), s, events)

/-- Starts the server and stops it at a signal that is given at once. -/
def runUntilSignal (s : Server α ω) (host : Host) : Except ServerError Unit × Server α ω :=
  match s.start host with
  | (.error e, s, _) => (.error e, s)
  | (.ok _, s, _) =>
      let (stopped, s, _) := s.stop host
      (stopped.mapError .lifecycle, s)

end Server

end Switchyard
