/-
  Switchyard.Server.Lifecycle
  ───────────────────────────
  The states of a server.  It moves forward only:

      created → initialized → running → stopping → stopped

  and one that never ran may stop at once.
-/

namespace Switchyard

inductive Lifecycle where
  | created
  | initialized
  | running
  | stopping
  | stopped
  deriving DecidableEq, Repr, Inhabited

/-- A move that is not allowed. -/
structure InvalidTransition where
  source : Lifecycle
  target : Lifecycle
  deriving DecidableEq, Repr

namespace Lifecycle

def name : Lifecycle → String
  | .created => "created"
  | .initialized => "initialized"
  | .running => "running"
  | .stopping => "stopping"
  | .stopped => "stopped"

def ofName? (name : String) : Option Lifecycle :=
  [created, initialized, running, stopping, stopped].find? fun s => s.name = name

/-- The moves that are allowed. -/
def canMoveTo : Lifecycle → Lifecycle → Bool
  | .created, .initialized => true
  | .initialized, .running => true
  | .running, .stopping => true
  | .stopping, .stopped => true
  | .created, .stopped => true
  | .initialized, .stopped => true
  | _, _ => false

/-- Moves to another state. -/
def transition (s target : Lifecycle) : Except InvalidTransition Lifecycle :=
  if s.canMoveTo target then .ok target else .error ⟨s, target⟩

end Lifecycle

def InvalidTransition.message (e : InvalidTransition) : String :=
  "cannot move server from " ++ e.source.name ++ " to " ++ e.target.name

end Switchyard
