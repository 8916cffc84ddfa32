/-
  Switchyard.Net.Network
  ──────────────────────
  What a machine's network lets a server do: bind sockets and connect to them.
-/
import Switchyard.Net.HostName

namespace Switchyard

/-- Why a host has no address. -/
inductive LookupError where
  /-- No host has the name. -/
  | unknown
  /-- There is no name server to ask. -/
  | unanswered
  /-- The name has a NUL in it. -/
  | nul
  deriving DecidableEq, Repr, Inhabited

def LookupError.message : LookupError → String
  | .unknown => "failed to lookup address information: Name or service not known"
  | .unanswered => "failed to lookup address information: Temporary failure in name resolution"
  | .nul => "file name contained an unexpected NUL byte"

/-- Why a socket cannot be bound. -/
inductive BindError where
  | inUse
  /-- The address belongs to another machine. -/
  | notAvailable
  | unresolved (error : LookupError)
  deriving DecidableEq, Repr, Inhabited

def BindError.message : BindError → String
  | .inUse => "Address already in use (os error 98)"
  | .notAvailable => "Cannot assign requested address (os error 99)"
  | .unresolved error => error.message

/-- Why a connection cannot be opened. -/
inductive ConnectError where
  | unreachable
  | refused
  deriving DecidableEq, Repr, Inhabited

def ConnectError.message : ConnectError → String
  | .unreachable => "Network is unreachable (os error 101)"
  | .refused => "Connection refused (os error 111)"

structure Network where
  /-- Which addresses can be bound. -/
  isLocal : IpAddress → Bool
  /-- Whether connections can be opened at all. -/
  isConnected : Bool
  /-- The sockets that are bound. -/
  taken : List SocketAddress

namespace Network

/-- The address of a host.  A domain name is known to no name server; without
a connection none can be asked. -/
def resolve (n : Network) (host : String) : Except LookupError IpAddress :=
  match HostName.address? host with
  | some ip => .ok ip
  | none =>
      if '\x00' ∈ host.toList then .error .nul
      else if HostName.isDomainName host && !n.isConnected then .error .unanswered
      else .error .unknown

/-- The ports that are given away where none is asked for. -/
def ephemeralPorts : List Nat := List.range' 32768 28232

/-- Binds a socket.  The port zero stands for any port that is free. -/
def bind (n : Network) (host : String) (port : UInt16) : Except BindError SocketAddress :=
  match n.resolve host with
  | .error e => .error (.unresolved e)
  | .ok ip =>
      if !n.isLocal ip then .error .notAvailable
      else if port = 0 then
        match ephemeralPorts.find? fun p => ⟨ip, p⟩ ∉ n.taken with
        | some p => .ok ⟨ip, p⟩
        | none => .error .inUse
      else if ⟨ip, port.toNat⟩ ∈ n.taken then .error .inUse
      else .ok ⟨ip, port.toNat⟩

/-- The network once a socket is bound. -/
def take (n : Network) (a : SocketAddress) : Network := { n with taken := a :: n.taken }

/-- Connects to a socket. -/
def connect (n : Network) (a : SocketAddress) : Except ConnectError Unit :=
  if !n.isConnected then .error .unreachable
  else if a ∈ n.taken then .ok ()
  else .error .refused

end Network

end Switchyard
