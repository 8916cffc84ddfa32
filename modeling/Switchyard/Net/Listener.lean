/-
  Switchyard.Net.Listener
  ───────────────────────
  Finding a port.  From the one that is asked for, ports are tried upwards as
  long as they are in use, up to a number of attempts and to the last port
  there is.

  The search is the same for every effect `m` that binding a port may have, so
  the ports that it tries can be noted down.
-/
import Switchyard.Net.Network

namespace Switchyard

/-- Why there is no listener. -/
inductive ListenerError where
  | bind (host : String) (port : UInt16) (error : BindError)
  /-- All ports that were tried, from the first to the last, are in use. -/
  | portsExhausted (host : String) (first last : UInt16)
  deriving DecidableEq, Repr, Inhabited

def ListenerError.message : ListenerError → String
  | .bind host port error => s!"failed to bind {host}:{port}: {error.message}"
  | .portsExhausted host first last => s!"no free port on {host} between {first} and {last}"

namespace Listener

variable {σ : Type} {m : Type → Type} [Monad m]

/-- Tries a port and, while ports are in use, as many as `more` after it.
`first` is the port that was asked for; zero stands for any port, so there is
none after it. -/
def search (bind : UInt16 → m (Except BindError σ)) (host : String) (first : UInt16) :
    Nat → UInt16 → m (Except ListenerError σ)
  | more, port => do
      match ← bind port with
      | .ok socket => return .ok socket
      | .error .inUse =>
          if first = 0 then return .error (.bind host port .inUse)
          else match more with
            | 0 => return .error (.portsExhausted host first port)
            | more + 1 =>
                if port.toNat = 65535 then return .error (.portsExhausted host first port)
                else search bind host first more (port + 1)
      | .error e => return .error (.bind host port e)

/-- Tries a port and those after it; at least one is tried. -/
def searchFrom (bind : UInt16 → m (Except BindError σ)) (host : String) (port : UInt16)
    (attempts : Nat) : m (Except ListenerError σ) :=
  search bind host port (max attempts 1 - 1) port

/-- Binds a port or one of those after it. -/
def bindFrom (bind : UInt16 → Except BindError σ) (host : String) (port : UInt16)
    (attempts : Nat) : Except ListenerError σ :=
  Id.run (searchFrom (fun port => pure (bind port)) host port attempts)

end Listener

end Switchyard
