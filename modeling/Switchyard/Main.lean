/-
  Switchyard.Main
  ───────────────
  The program: it reads its arguments and files, opens sockets, and hands what
  arrives to the server.  What is to be answered, kept and reported is decided
  elsewhere; here it is fetched and carried out.
-/
import Std.Async.Signal
import Std.Async.TCP
import Std.Async.Timer
import Std.Sync.Channel
import Std.Sync.Mutex
import Std.Time
import Switchyard.CommandLine
import Switchyard.Config.Reload
import Switchyard.Log.Line
import Switchyard.Server.Exchange

namespace Switchyard.Program

open Std.Async (Async Selectable Selector Signal)
open Std.Async.TCP.Socket (Client)

/-! ## §1. Files. -/

/-- The error of a file as the server knows it. -/
def fileError : IO.Error → FileError
  | .inappropriateType _ code _ => if code = 20 then .notADirectory else .isADirectory
  | .invalidArgument .. => .nameTooLong
  | .resourceBusy .. => .busy
  | _ => .notFound

def readFile (path : String) : IO (Except FileError Bytes) := do
  if path.toList.contains '\x00' then return .error .nulInPath
  try return .ok (← IO.FS.readBinFile path).toList
  catch e => return .error (fileError e)

def readText (path : String) : IO (Except FileError String) := do
  return (← readFile path) >>= fun bytes =>
    match Utf8.decode? bytes with
    | some text => .ok text
    | none => .error .notText

/-- A file system that shows what is found at a path. -/
def filesAt (path : String) : IO FileSystem := do
  match ← readFile path with
  | .ok content => return FileSystem.empty.addFile path content
  | .error .isADirectory => return FileSystem.empty.addFile (path ++ "/") []
  | .error _ => return .empty

def perform : FileSystem.Write → IO Unit
  | .create path => IO.FS.writeBinFile path .empty
  | .append path bytes => do (← IO.FS.Handle.mk path .append).write bytes.toByteArray
  | .rename old new => IO.FS.rename old new

/-! ## §2. The server while it runs. -/

/-- A server without handlers of an application. -/
abbrev Instance := Server Empty Unit

def noHandlers : Handling Empty (Context Empty Unit) := fun handler => nomatch handler

structure Running where
  server : Std.Mutex Instance
  config : Config
  /-- Whether the program was told to stop. -/
  stopped : IO.Ref Bool
  /-- When the program started, in milliseconds. -/
  startedAt : Nat

def report (config : Config) (events : List Event) : IO Unit :=
  events.forM fun e => IO.println (e.line config.observability.logFormat)

/-- The seconds since 1970. -/
def readClock : IO Nat := return (← Std.Time.Timestamp.now).toSecondsSinceUnixEpoch.val.toNat

namespace Running

/-- Changes the connection counter. -/
def count (r : Running) (change : Connections → Connections) : IO Unit :=
  r.server.atomically do
    let s ← get
    set (s.withContext { s.context with connections := change s.context.connections })

/-- Answers one request. -/
def answer (r : Running) (a : Arrival) : IO Response :=
  r.server.atomically do
    let s ← get
    let files ← match s.fileFor? a with
      | some path => filesAt path
      | none => pure s.context.files
    let uptimeSeconds := ((← IO.monoMsNow) - r.startedAt) / 1000
    let s := s.withContext { s.context with files, uptimeSeconds }
    let time ← readClock
    let (response, s, events) := s.exchange noHandlers a ⟨time, time, time⟩
    report r.config events
    set s
    return response

/-! ## §3. Connections. -/

def send (client : Client) (bytes : Bytes) : IO Unit :=
  (client.send bytes.toByteArray).block

/-- Waits for octets, but not longer than the server runs.  Gives none at the
end of the connection. -/
def receive (r : Running) (client : Client) : IO Bytes := do
  repeat
    if ← r.stopped.get then return []
    let wait : Async (Option (Option ByteArray)) := do
      Selectable.one #[
        .case (client.recvSelector 65536) fun bytes => return some bytes,
        .case (← Selector.sleep 200) fun _ => return none]
    if let some bytes := ← wait.block then return (bytes.getD .empty).toList
  return []

/-- Serves the requests of a connection until one side ends it. -/
def serve (r : Running) (client : Client) (peer : String) : IO Unit := do
  let mut arrived : Bytes := []
  repeat
    match Wire.request arrived with
    | .error .malformed =>
        send client Wire.malformedBytes
        break
    | .error .incomplete =>
        let bytes ← r.receive client
        if bytes = [] then break
        arrived := arrived ++ bytes
    | .ok ((head, body), rest) =>
        let id := RequestId.ofRandom (← IO.getRandomBytes 16).toList
        let response ← r.answer (Arrival.ofHead head body id peer .plain)
        let closing := head.closes || !r.config.listener.keepAlive || (← r.stopped.get)
        send client (Wire.responseBytes head.version (head.method = .head) closing response)
        if closing then break
        arrived := rest
  client.shutdown.block

/-- The address of a connection's other end, as text. -/
def peerText (client : Client) : IO String := do
  match ← client.getPeerName with
  | .v4 a => return (SocketAddress.mk (.v4 (a.addr.octets.toList.map (·.toNat))) a.port.toNat).text
  | .v6 a =>
      return (SocketAddress.mk (.v6 (a.addr.segments.toList.map (·.toNat)) 0) a.port.toNat).text

/-- Serves connections off the queue until it is closed and empty. -/
def work (r : Running) (queue : Std.CloseableChannel.Sync Client) : IO Unit := do
  for client in queue do
    r.count Connections.track
    try r.serve client (← peerText client)
    catch _ => pure ()
    r.count Connections.release

/-- Hands new connections to the workers, or refuses them if too many wait. -/
def accept (r : Running) (socket : Std.Async.TCP.Socket.Server)
    (queue : Std.CloseableChannel.Sync Client) : IO Unit := do
  repeat
    if ← r.stopped.get then break
    match ← socket.tryAccept with
    | none => IO.sleep 5
    | some client =>
        unless ← queue.trySend client do
          try
            send client (Wire.responseBytes .http11 false true .busy)
            client.shutdown.block
          catch _ => pure ()

/-- Follows the configuration file. -/
def follow (r : Running) (path : String) : IO Unit := do
  let mut reloader := Reloader.start path (← readText path)
  repeat
    if ← r.stopped.get then break
    IO.sleep 500
    let (forwarded, next) := reloader.reload true (← readText path)
    reloader := next
    if let some config := forwarded then
      r.server.atomically do
        let s ← get
        let (site, events) := s.site.applyConfig config
        report r.config events
        set { s with site }

end Running

/-! ## §4. Start and stop. -/

/-- An address as the system takes it. -/
def systemAddress? (a : SocketAddress) : Option Std.Net.SocketAddress :=
  match a.ip with
  | .v4 [b, c, d, e] => some (.v4 ⟨.ofParts (.ofNat b) (.ofNat c) (.ofNat d) (.ofNat e), .ofNat a.port⟩)
  | .v6 groups _ =>
      if h : (groups.map UInt16.ofNat).toArray.size = 8 then some (.v6 ⟨⟨⟨_, h⟩⟩, .ofNat a.port⟩)
      else none
  | _ => none

/-- Binds a socket, or tells why that is not possible. -/
def bindSocket (a : SocketAddress) : IO (Except BindError Std.Async.TCP.Socket.Server) := do
  let some address := systemAddress? a | return .error .notAvailable
  let socket ← Std.Async.TCP.Socket.Server.mk
  try
    socket.bind address
    socket.listen 1024
    return .ok socket
  catch
    | .resourceBusy .. => return .error .inUse
    | _ => return .error .notAvailable

/-- Starts a server.  The host is taken to have every address free until the
system says otherwise, and the start is tried again with what it said. -/
def start (server : Instance) (host : Host) :
    IO (Except ServerError (Instance × Std.Async.TCP.Socket.Server × List Event)) := do
  let mut host := host
  repeat
    match server.start host with
    | (.error e, _, _) => return .error e
    | (.ok addresses, started, events) =>
        match ← bindSocket addresses.plain with
        | .ok socket => return .ok (started, socket, events)
        | .error .inUse => host := { host with network := host.network.take addresses.plain }
        | .error _ =>
            let isLocal (ip : IpAddress) : Bool := ip ≠ addresses.plain.ip && host.network.isLocal ip
            host := { host with network := { host.network with isLocal } }
  return .error (.lifecycle ⟨.created, .running⟩)

/-- Waits until the program is told to stop. -/
def awaitSignal : IO Unit := do
  let interrupt ← (← Signal.Waiter.mk .sigint false).wait
  let terminate ← (← Signal.Waiter.mk .sigterm false).wait
  let _ ← IO.waitAny [interrupt.run, terminate.run]

/-- Waits for tasks, up to a number of seconds.  Tells whether all have ended. -/
def awaitAll (tasks : List (Task (Except IO.Error Unit))) (seconds : Nat) : IO Bool := do
  let deadline := (← IO.monoMsNow) + seconds * 1000
  repeat
    if ← tasks.allM fun t => IO.hasFinished t then return true
    if deadline ≤ (← IO.monoMsNow) then return false
    IO.sleep 20
  return false

/-- Saves the cache's snapshot. -/
def saveCache (server : Instance) : IO (List Event) := do
  match server.site.cache.snapshotPath? with
  | none => return []
  | some path =>
      try
        (server.site.cache.savePlan path).forM perform
        return []
      catch e => return [.snapshotNotSaved (fileError e)]

/-- Serves with a valid configuration until a signal ends it. -/
def serve (config : Config) (configPath? : Option String) : IO CommandLine.Ending := do
  let files ← match config.cache.persistencePath with
    | some path => filesAt path
    | none => pure .empty
  let host : Host :=
    { network := ⟨fun _ => true, true, []⟩, usableKeys := fun _ _ => false, parallelism := 4
      drainsInTime := true, now := ← readClock }
  match ← start (Server.new config .empty files ()) host with
  | .error e => return .failure [e.message]
  | .ok (server, socket, events) =>
      report config events
      let running : Running :=
        { server := ← Std.Mutex.new server, config, stopped := ← IO.mkRef false
          startedAt := ← IO.monoMsNow }
      let pool : Pool Nat := server.pool.getD (Pool.start 1 1)
      let queue ← Std.CloseableChannel.Sync.new (some pool.capacity)
      let workers ← (List.range pool.size).mapM fun _ => IO.asTask (running.work queue) .dedicated
      let acceptor ← IO.asTask (running.accept socket queue) .dedicated
      if let some path := configPath? then
        let _ ← IO.asTask (running.follow path) .dedicated
      awaitSignal
      running.stopped.set true
      let _ ← IO.wait acceptor
      try queue.close catch _ => pure ()
      let drainsInTime ← awaitAll workers config.workers.drainTimeoutSeconds
      let server ← running.server.atomically get
      report config ((server.stop { host with drainsInTime }).2.2 ++ (← saveCache server))
      return .success

end Switchyard.Program

/-- Runs the program with its arguments; gives its exit code. -/
def main (arguments : List String) : IO UInt32 := do
  let ending ← match Switchyard.CommandLine.parse arguments with
    | .error stop => pure (Switchyard.CommandLine.Ending.ofStop stop)
    | .ok options =>
        let content ← match options.config? with
          | some path => Switchyard.Program.readText path
          | none => pure (.error .notFound)
        match options.configure fun _ => content with
        | .error complaints => pure (Switchyard.CommandLine.Ending.failure complaints)
        | .ok config => Switchyard.Program.serve config options.config?
  IO.print ending.output
  ending.errors.forM IO.eprintln
  return .ofNat ending.code
