/-
  Switchyard.Net.Connections
  ──────────────────────────
  The counter of open connections, and the guards that drive it.  A tracker
  makes a guard when a connection opens, and the guard counts until it is
  dropped.  All clones of a tracker and all their guards share one counter in
  memory, which they own together.

      Connections    — the counter, and waiting until it is zero
      SharedCounter  — a counter and how many own it
      Tracking       — trackers and guards
      Guards         — guards under identifiers of their holders
-/
import Switchyard.Roster
import Switchyard.Table

namespace Switchyard

/-! ## §1. The counter. -/

/-- How many connections are open, as a 64-bit word. -/
structure Connections where
  active : UInt64
  deriving DecidableEq, Repr, Inhabited

/-- For how many milliseconds one who waits pauses between two looks. -/
def pauseMillis : Nat := 20

/-- What a clock shows, in milliseconds, when a wait starts and at each look. -/
structure Clock where
  start : Nat
  look : Nat → Nat
  /-- A pause takes its time, or longer. -/
  paused : ∀ i, look i + pauseMillis ≤ look (i + 1)

/-- A clock by which no pause is longer than it has to be. -/
def Clock.steady : Clock where
  start := 0
  look i := i * pauseMillis
  paused i := Nat.le_of_eq (Nat.succ_mul i pauseMillis).symm

namespace Connections

def zero : Connections := ⟨0⟩

/-- One connection more. -/
def track (c : Connections) : Connections := ⟨c.active + 1⟩

/-- One connection less. -/
def release (c : Connections) : Connections := ⟨c.active - 1⟩

/-- Whether no connection is open. -/
def isIdle (c : Connections) : Bool := c.active = 0

/-- Waits from a look on until no connection is open, or until the deadline has
passed.  Tells which it was. -/
def waitFrom (seen : Nat → Connections) (clock : Clock) (deadline i : Nat) : Bool :=
  if (seen i).isIdle then true
  else if deadline ≤ clock.look i then false
  else waitFrom seen clock deadline (i + 1)
termination_by deadline - clock.look i
decreasing_by
  have := clock.paused i
  simp only [pauseMillis] at this
  omega

/-- Waits until no connection is open, but not longer than a timeout, given the
counter at each look.  Tells whether it came to that. -/
def waitIdle (seen : Nat → Connections) (timeoutMillis : Nat) (clock : Clock) : Bool :=
  waitFrom seen clock (clock.start + timeoutMillis) 0

end Connections

/-! ## §2. Counters and their owners. -/

/-- A counter that has more owners than this cannot get another one: the program
ends at the attempt. -/
def maxOwners : Nat := UInt64.size / 2 - 1

/-- A counter in memory, and how many trackers and guards own it. -/
structure SharedCounter where
  connections : Connections
  owners : Nat
  deriving DecidableEq, Repr, Inhabited

namespace SharedCounter

/-- The counter of a tracker that is new. -/
def new : SharedCounter := ⟨.zero, 1⟩

/-- The counter with an owner more, if it can get one. -/
def share? (c : SharedCounter) : Option SharedCounter :=
  if maxOwners < c.owners then none else some { c with owners := c.owners + 1 }

/-- The counter with an owner less. -/
def disown (c : SharedCounter) : SharedCounter := { c with owners := c.owners - 1 }

/-- Counts a connection; its guard is an owner. -/
def track? (c : SharedCounter) : Option SharedCounter :=
  { c with connections := c.connections.track }.share?

/-- Counts a connection no more, as its guard goes. -/
def release (c : SharedCounter) : SharedCounter :=
  { c with connections := c.connections.release }.disown

end SharedCounter

/-- A guard: where the counter is that it counts in, and its connection. -/
structure Guard where
  counter : Nat
  connection : Nat
  deriving DecidableEq, Repr, Inhabited

/-! ## §3. Trackers and guards. -/

/-- Trackers and guards, and the counters that they own.  A counter lies in
memory under the number of the tracker that it was made for. -/
structure Tracking where
  counters : Table Nat SharedCounter
  /-- Where the counter of each tracker is. -/
  trackers : Roster Nat
  guards : Roster Guard
  deriving Inhabited

namespace Tracking

def empty : Tracking := ⟨.empty, .empty, .empty⟩

/-- The counter of a tracker. -/
def trackerCounter? (s : Tracking) (tracker : Nat) : Option SharedCounter :=
  s.trackers.get? tracker >>= s.counters.get?

/-- The counter of a guard. -/
def guardCounter? (s : Tracking) (guard : Nat) : Option SharedCounter :=
  s.guards.get? guard >>= fun g => s.counters.get? g.counter

/-- How many connections a tracker says are open. -/
def activeCount? (s : Tracking) (tracker : Nat) : Option UInt64 :=
  (s.trackerCounter? tracker).map fun c => c.connections.active

/-- What waiting for a tracker's connections tells while nothing happens. -/
def waitIdle? (s : Tracking) (tracker timeoutMillis : Nat) (clock : Clock) : Option Bool :=
  (s.trackerCounter? tracker).map fun c =>
    Connections.waitIdle (fun _ => c.connections) timeoutMillis clock

/-- Changes the counter at a place in memory. -/
def change? (s : Tracking) (place : Nat) (change : SharedCounter → Option SharedCounter) :
    Option Tracking := do
  let counter ← s.counters.get? place
  let counter ← change counter
  return { s with counters := s.counters.insert place counter }

/-- Makes a tracker with a counter of its own. -/
def new (s : Tracking) : Tracking :=
  let place := s.trackers.made
  { s with counters := s.counters.insert place .new, trackers := s.trackers.add place }

/-- Makes a tracker that shares the counter of another one. -/
def clone (s : Tracking) (tracker : Nat) : Option Tracking := do
  let place ← s.trackers.get? tracker
  let s ← s.change? place SharedCounter.share?
  return { s with trackers := s.trackers.add place }

/-- Drops a tracker. -/
def discard (s : Tracking) (tracker : Nat) : Option Tracking := do
  let place ← s.trackers.get? tracker
  let s ← s.change? place fun c => some c.disown
  return { s with trackers := s.trackers.remove tracker }

/-- Tracks a connection with a new guard. -/
def track (s : Tracking) (tracker connection : Nat) : Option Tracking := do
  let place ← s.trackers.get? tracker
  let s ← s.change? place SharedCounter.track?
  return { s with guards := s.guards.add ⟨place, connection⟩ }

/-- Drops a guard. -/
def drop (s : Tracking) (guard : Nat) : Option Tracking := do
  let g ← s.guards.get? guard
  let s ← s.change? g.counter fun c => some c.release
  return { s with guards := s.guards.remove guard }

/-- Tracks a connection with a new guard that takes the place of another one,
which is dropped once the new one is there. -/
def replace (s : Tracking) (guard tracker connection : Nat) : Option Tracking := do
  let s ← s.track tracker connection
  s.drop guard

/-- What is done with trackers and guards. -/
inductive Call where
  | new
  | clone (tracker : Nat)
  | discard (tracker : Nat)
  | track (tracker connection : Nat)
  | drop (guard : Nat)
  | replace (guard tracker connection : Nat)
  deriving DecidableEq, Repr, Inhabited

/-- What a call makes of it all, if it can be made: not with a tracker or guard
that is gone, and not if a counter cannot get another owner. -/
def step (s : Tracking) : Call → Option Tracking
  | .new => some s.new
  | .clone tracker => s.clone tracker
  | .discard tracker => s.discard tracker
  | .track tracker connection => s.track tracker connection
  | .drop guard => s.drop guard
  | .replace guard tracker connection => s.replace guard tracker connection

/-- What calls make of it, one after the other. -/
def run (s : Tracking) (calls : List Call) : Option Tracking := calls.foldlM step s

end Tracking

/-! ## §4. Guards under the identifiers of their holders. -/

/-- One tracker, the guards that are held, each under an identifier of its
holder, and the number that the next connection gets. -/
structure Guards where
  tracking : Tracking
  held : Table Nat Nat
  next : Nat
  deriving Inhabited

namespace Guards

def empty : Guards := ⟨Tracking.empty.new, .empty, 1⟩

/-- The counter of the tracker. -/
def connections (g : Guards) : Connections :=
  (g.tracking.trackerCounter? 0).elim .zero SharedCounter.connections

/-- Makes a guard and holds it in the place of any other of this identifier,
which is dropped once the new one counts.  Tells the number of the new guard's
connection.  Where this would end the program, nothing changes. -/
def hold (g : Guards) (id : Nat) : Nat × Guards :=
  let tracking? := match g.held.get? id with
    | some guard => g.tracking.replace guard 0 g.next
    | none => g.tracking.track 0 g.next
  match tracking? with
  | some tracking => (g.next, ⟨tracking, g.held.insert id g.tracking.guards.made, g.next + 1⟩)
  | none => (g.next, g)

/-- Drops the guard of an identifier.  Tells whether there was one. -/
def drop (g : Guards) (id : Nat) : Bool × Guards :=
  match g.held.get? id >>= g.tracking.drop with
  | some tracking => (true, { g with tracking, held := g.held.erase id })
  | none => (false, g)

end Guards

end Switchyard
