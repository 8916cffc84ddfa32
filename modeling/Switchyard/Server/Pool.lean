/-
  Switchyard.Server.Pool
  ──────────────────────
  A fixed number of workers that share one bounded queue of connections.  A
  connection is queued when it is handed over, or refused if the queue is full
  or closed; idle workers take connections from the front.  Draining closes the
  queue, and a worker leaves once the queue is closed and empty.

  `Pool.step` is one event at a time, in whatever order they happen.
-/
import Switchyard.Http.Response

namespace Switchyard

/-- What a worker is doing. -/
inductive Worker (κ : Type) where
  | idle
  | serving (connection : κ)
  /-- It has left for good. -/
  | gone
  deriving DecidableEq, Repr, Inhabited

structure Pool (κ : Type) where
  workers : List (Worker κ)
  /-- How many connections may wait. -/
  capacity : Nat
  /-- The connections that wait, the oldest first. -/
  queue : List κ
  /-- Whether connections are still taken in. -/
  isOpen : Bool
  refused : List κ
  finished : List κ
  deriving DecidableEq, Repr, Inhabited

/-- What happens to a pool. -/
inductive PoolEvent (κ : Type) where
  /-- A connection is handed over. -/
  | submit (connection : κ)
  /-- An idle worker takes the oldest connection from the queue. -/
  | take (worker : Nat)
  /-- A worker is done with its connection, perhaps by a panic. -/
  | finish (worker : Nat) (panicked : Bool)
  | beginDrain
  /-- An idle worker leaves. -/
  | leave (worker : Nat)
  deriving DecidableEq, Repr, Inhabited

namespace Pool

variable {κ : Type}

/-- A pool of idle workers, with at least one worker and one place to wait. -/
def start (workers capacity : Nat) : Pool κ :=
  { workers := List.replicate (max workers 1) .idle, capacity := max capacity 1, queue := []
    isOpen := true, refused := [], finished := [] }

def size (p : Pool κ) : Nat := p.workers.length

/-- The connections that are being served. -/
def serving (p : Pool κ) : List κ :=
  p.workers.filterMap fun
    | .serving c => some c
    | _ => none

/-- Whether a connection handed over now would be queued. -/
def hasRoom (p : Pool κ) : Bool := p.isOpen && p.queue.length < p.capacity

/-- Hands a connection over. -/
def submit (p : Pool κ) (c : κ) : Pool κ :=
  if p.hasRoom then { p with queue := p.queue ++ [c] } else { p with refused := p.refused ++ [c] }

/-- What an event makes of the pool, if it can happen. -/
def step (p : Pool κ) : PoolEvent κ → Option (Pool κ)
  | .submit c => some (p.submit c)
  | .take i =>
      match p.workers[i]?, p.queue with
      | some .idle, c :: queue => some { p with workers := p.workers.set i (.serving c), queue }
      | _, _ => none
  | .finish i _ =>
      match p.workers[i]? with
      | some (.serving c) =>
          some { p with workers := p.workers.set i .idle, finished := p.finished ++ [c] }
      | _ => none
  | .beginDrain => some { p with isOpen := false }
  | .leave i =>
      match p.workers[i]? with
      | some .idle =>
          if p.isOpen || !p.queue.isEmpty then none
          else some { p with workers := p.workers.set i .gone }
      | _ => none

/-- What events make of the pool, one after the other. -/
def run (p : Pool κ) (events : List (PoolEvent κ)) : Option (Pool κ) := events.foldlM step p

/-- Whether nothing is left to wait for. -/
def isQuiet (p : Pool κ) : Bool := p.queue.isEmpty && p.serving.isEmpty

end Pool

/-- The answer to a connection that is refused, which ends with it. -/
def Response.busy : Response :=
  (Response.new .serviceUnavailable (Utf8.encode "Server busy\n")).withContentType plainText
    |>.withHeader { text := "retry-after" } (.ofString "1")

end Switchyard
