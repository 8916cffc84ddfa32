/-
  Switchyard.Log.Event
  ────────────────────
  What a server reports of things that went wrong: a level, a message and
  named fields with texts.
-/
import Switchyard.Files.System
import Switchyard.Http.Method
import Switchyard.Text.Quoted

namespace Switchyard

inductive LogLevel where
  | warning
  | error
  deriving DecidableEq, Repr, Inhabited

def LogLevel.name : LogLevel → String
  | .warning => "WARN"
  | .error => "ERROR"

/-- Which request a handler was answering. -/
structure RequestTag where
  id : String
  method : Method
  path : String
  /-- The name of the binding that took the request. -/
  binding : String
  deriving DecidableEq, Repr, Inhabited

inductive Event where
  | handlerFailed (tag : RequestTag) (causes : List String)
  /-- A handler panicked, with a text if its payload is one. -/
  | handlerPanicked (tag : RequestTag) (text? : Option String)
  | accessDenied (path peer : String)
  /-- A new configuration changes what is fixed while a server runs. -/
  | restartNeeded
  /-- The snapshot in this file could not be loaded. -/
  | coldStart (snapshot : String)
  /-- There is no TLS listener, for this reason. -/
  | tlsNotStarted (reason : String) (port : UInt16)
  /-- Workers were still busy when the time to drain was over. -/
  | drainTimedOut (activeConnections : Nat)
  | snapshotNotSaved (error : FileError)
  deriving DecidableEq, Repr, Inhabited

namespace Event

def level : Event → LogLevel
  | .handlerFailed .. | .handlerPanicked .. | .tlsNotStarted .. => .error
  | .accessDenied .. | .restartNeeded | .coldStart _ | .drainTimedOut _
  | .snapshotNotSaved _ => .warning

def message : Event → String
  | .handlerFailed .. => "Handler failed"
  | .handlerPanicked .. => "Handler panicked"
  | .accessDenied .. => "Rejected unauthenticated admin request"
  | .restartNeeded => "Listener and worker changes take effect after a restart"
  | .coldStart _ => "Failed to load response cache snapshot, starting cold"
  | .tlsNotStarted .. => "HTTPS listener not started, continuing with HTTP only"
  | .drainTimedOut _ => "Shutdown continued with connections still open"
  | .snapshotNotSaved _ => "Failed to persist response cache"

def tagFields (tag : RequestTag) : List (String × String) :=
  [("request_id", tag.id), ("method", tag.method.token), ("path", tag.path),
    ("binding", tag.binding)]

def fields : Event → List (String × String)
  | .handlerFailed tag causes => tagFields tag ++ [("error", ": ".intercalate causes)]
  | .handlerPanicked tag text? =>
      tagFields tag ++ [("panic", text?.getD "non-string panic payload")]
  | .accessDenied path peer => [("path", path), ("peer_addr", peer)]
  | .restartNeeded => []
  | .coldStart snapshot => [("path", "Some(" ++ Text.quoted snapshot ++ ")")]
  | .tlsNotStarted reason port => [("error", reason), ("port", toString port)]
  | .drainTimedOut active => [("active_connections", toString active)]
  | .snapshotNotSaved error => [("error", error.message)]

end Event

end Switchyard
