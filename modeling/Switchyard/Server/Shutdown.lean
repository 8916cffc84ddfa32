/-
  Switchyard.Server.Shutdown
  ──────────────────────────
  A stop signal that is given once and stays given.  Tasks wait for it through
  receivers; a receiver is done waiting when the signal is given, and also when
  nobody is left who could give it.
-/

namespace Switchyard

structure Shutdown where
  triggered : Bool
  /-- Whether the first handle on the signal is still held. -/
  held : Bool
  /-- How many further handles are held. -/
  clones : Nat
  /-- The identifiers of the receivers. -/
  receivers : List Nat
  deriving DecidableEq, Repr, Inhabited

namespace Shutdown

def new : Shutdown := ⟨false, true, 0, []⟩

/-- Whether somebody is left who could give the signal. -/
def isHeld (s : Shutdown) : Bool := s.held || s.clones != 0

/-- Gives the signal. -/
def trigger (s : Shutdown) : Shutdown := { s with triggered := true }

/-- Adds a receiver, in the place of one with the same identifier. -/
def subscribe (s : Shutdown) (id : Nat) : Shutdown :=
  { s with receivers := id :: s.receivers.filter (· ≠ id) }

def clone (s : Shutdown) : Shutdown := { s with clones := s.clones + 1 }

def dropFirst (s : Shutdown) : Shutdown := { s with held := false }

def dropClones (s : Shutdown) : Shutdown := { s with clones := 0 }

/-- Removes a receiver. -/
def unsubscribe (s : Shutdown) (id : Nat) : Shutdown :=
  { s with receivers := s.receivers.filter (· ≠ id) }

/-- Whether a receiver would not have to wait. -/
def isDone (s : Shutdown) : Bool := s.triggered || !s.isHeld

end Shutdown

end Switchyard
