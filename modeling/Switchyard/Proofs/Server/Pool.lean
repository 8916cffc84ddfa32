/-
  Switchyard.Proofs.Server.Pool
  ─────────────────────────────
  The worker pool over whole runs: connections are handed over, taken, served
  and finished, a drain begins and workers leave, in any order.  No connection
  is lost and none is served twice.

      Happens          — all that an event can do to a pool
      submitted        — the connections that were handed over, in order
      accepted, taken  — those of them that were queued, and dequeued
      Sound            — kept by every event: sizes, and who has left

  Main statements:

      queue_law     — the queue is first in, first out
      outcomes_law  — every connection is refused, waiting, served or finished
      run_accounts
-/
import Mathlib.Data.List.Perm.Basic
import Switchyard.Server.Pool

namespace Switchyard

variable {κ : Type}

/-! ## §1. Workers. -/

namespace Worker

/-- The connection that a worker is serving, if it is serving one. -/
def connection? : Worker κ → Option κ
  | .serving c => some c
  | _ => none

/-- Whether a worker has not left. -/
def isPresent : Worker κ → Bool
  | .gone => false
  | _ => true

end Worker

namespace Pool

theorem serving_eq (p : Pool κ) : p.serving = p.workers.filterMap Worker.connection? := by
  unfold serving
  congr 1

/-- How many workers have not left. -/
def staff (p : Pool κ) : Nat := p.workers.countP Worker.isPresent

/-- When one worker turns to something else, the others stay what they were. -/
theorem exists_perm_of_set {workers : List (Worker κ)} {i : Nat} {w : Worker κ}
    (h : workers[i]? = some w) (w' : Worker κ) :
    ∃ others, workers.Perm (w :: others) ∧ (workers.set i w').Perm (w' :: others) := by
  obtain ⟨hi, hw⟩ := List.getElem?_eq_some_iff.mp h
  refine ⟨workers.eraseIdx i, ?_, List.set_perm_cons_eraseIdx hi w'⟩
  rw [← hw]
  exact (List.getElem_cons_eraseIdx_perm hi).symm

/-- No two workers serve one connection if none is served twice. -/
theorem eq_of_serving {workers : List (Worker κ)} {i j : Nat} {c : κ}
    (hnodup : (workers.filterMap Worker.connection?).Nodup)
    (hi : workers[i]? = some (.serving c)) (hj : workers[j]? = some (.serving c)) : i = j := by
  have hmem (ws : List (Worker κ)) (k : Nat) (hk : ws[k]? = some (.serving c)) :
      c ∈ ws.filterMap Worker.connection? :=
    List.mem_filterMap.mpr ⟨_, List.mem_of_getElem? hk, rfl⟩
  -- The first worker is taken off: what it serves cannot be served by one behind it too.
  induction workers generalizing i j with
  | nil => simp at hi
  | cons w workers ih =>
      have hrest : (workers.filterMap Worker.connection?).Nodup :=
        hnodup.sublist ((List.sublist_cons_self w workers).filterMap _)
      cases i with
      | zero =>
          obtain rfl : w = .serving c := by simpa using hi
          cases j with
          | zero => rfl
          | succ j => exact absurd (hmem workers j hj) (List.nodup_cons.mp hnodup).1
      | succ i =>
          cases j with
          | zero =>
              obtain rfl : w = .serving c := by simpa using hj
              exact absurd (hmem workers i hi) (List.nodup_cons.mp hnodup).1
          | succ j => rw [ih hrest hi hj]

/-! ## §2. One event. -/

/-- **All that an event can do to a pool.** -/
inductive Happens (p : Pool κ) : PoolEvent κ → Pool κ → Prop where
  | queued (c : κ) (room : p.hasRoom = true) :
      Happens p (.submit c) { p with queue := p.queue ++ [c] }
  | refused (c : κ) (noRoom : p.hasRoom = false) :
      Happens p (.submit c) { p with refused := p.refused ++ [c] }
  | taken (i : Nat) (c : κ) (queue : List κ) (idle : p.workers[i]? = some .idle)
      (first : p.queue = c :: queue) :
      Happens p (.take i) { p with workers := p.workers.set i (.serving c), queue }
  | finished (i : Nat) (panicked : Bool) (c : κ) (busy : p.workers[i]? = some (.serving c)) :
      Happens p (.finish i panicked)
        { p with workers := p.workers.set i .idle, finished := p.finished ++ [c] }
  | closed : Happens p .beginDrain { p with isOpen := false }
  | left (i : Nat) (idle : p.workers[i]? = some .idle) (shut : p.isOpen = false)
      (empty : p.queue = []) : Happens p (.leave i) { p with workers := p.workers.set i .gone }

theorem happens_of_step {p p' : Pool κ} {e : PoolEvent κ} (h : p.step e = some p') :
    Happens p e p' := by
  -- A step that the state does not allow gives nothing, so each guard is met in what is left.
  cases e with
  | submit c =>
      obtain rfl := Option.some.inj h
      unfold submit
      split
      · next hroom => exact .queued c hroom
      · next hroom => exact .refused c (by simpa using hroom)
  | take i =>
      simp only [step] at h
      split at h
      · next c queue hidle hqueue =>
        obtain rfl := Option.some.inj h
        exact .taken i c queue hidle hqueue
      · simp at h
  | finish i panicked =>
      simp only [step] at h
      split at h
      · next c hbusy =>
        obtain rfl := Option.some.inj h
        exact .finished i panicked c hbusy
      · simp at h
  | beginDrain =>
      obtain rfl := Option.some.inj h
      exact .closed
  | leave i =>
      simp only [step] at h
      split at h
      · next hidle =>
        split at h
        · simp at h
        · next hquiet =>
          obtain rfl := Option.some.inj h
          simp only [Bool.or_eq_true, Bool.not_eq_true', not_or, Bool.not_eq_true,
            Bool.not_eq_false, List.isEmpty_iff] at hquiet
          exact .left i hidle hquiet.1 hquiet.2
      · simp at h

/-! ## §3. What a run hands over, takes in and takes out. -/

/-- The connection that an event hands over. -/
def handed : PoolEvent κ → List κ
  | .submit c => [c]
  | _ => []

/-- The connection that an event puts into the queue. -/
def takesIn (p : Pool κ) : PoolEvent κ → List κ
  | .submit c => if p.hasRoom then [c] else []
  | _ => []

/-- The connection that an event takes from the queue. -/
def takesOut (p : Pool κ) : PoolEvent κ → List κ
  | .take _ => p.queue.head?.toList
  | _ => []

/-- The connections that were handed over, in order. -/
def submitted (events : List (PoolEvent κ)) : List κ := events.flatMap handed

/-- What the events of a run contribute, one after the other. -/
def gather (f : Pool κ → PoolEvent κ → List κ) (p : Pool κ) : List (PoolEvent κ) → List κ
  | [] => []
  | e :: events =>
      f p e ++ match p.step e with
        | some p' => gather f p' events
        | none => []

/-- The connections that were queued in a run, in order. -/
def accepted (p : Pool κ) (events : List (PoolEvent κ)) : List κ := gather takesIn p events

/-- The connections that workers took from the queue in a run, in order. -/
def taken (p : Pool κ) (events : List (PoolEvent κ)) : List κ := gather takesOut p events

theorem gather_cons {p p' : Pool κ} {e : PoolEvent κ} (h : p.step e = some p')
    (f : Pool κ → PoolEvent κ → List κ) (events : List (PoolEvent κ)) :
    gather f p (e :: events) = f p e ++ gather f p' events := by
  rw [gather, h]

theorem run_cons {p p'' : Pool κ} {e : PoolEvent κ} {events : List (PoolEvent κ)} :
    p.run (e :: events) = some p'' ↔ ∃ p', p.step e = some p' ∧ p'.run events = some p'' := by
  unfold run
  rw [List.foldlM_cons]
  exact Option.bind_eq_some_iff

/-! ## §4. The queue. -/

theorem Happens.queue_law {p p' : Pool κ} {e : PoolEvent κ} (h : Happens p e p') :
    p.queue ++ p.takesIn e = p.takesOut e ++ p'.queue := by
  cases h with
  | queued c room => simp [takesIn, takesOut, room]
  | refused c noRoom => simp [takesIn, takesOut, noRoom]
  | taken i c queue idle first => simp [takesIn, takesOut, first]
  | finished i panicked c busy => simp [takesIn, takesOut]
  | closed => simp [takesIn, takesOut]
  | left i idle shut empty => simp [takesIn, takesOut]

/-- **The queue is first in, first out**: what waited before a run and what it
queued, in this order, is what workers took out in it and what waits then. -/
theorem queue_law {p p' : Pool κ} {events : List (PoolEvent κ)} (h : p.run events = some p') :
    p.queue ++ p.accepted events = p.taken events ++ p'.queue := by
  induction events generalizing p with
  | nil =>
      obtain rfl : p = p' := Option.some.inj h
      simp [accepted, taken, gather]
  | cons e events ih =>
      obtain ⟨p₁, hstep, hrun⟩ := run_cons.mp h
      have hone := (happens_of_step hstep).queue_law
      have hrest := ih hrun
      unfold accepted taken at hrest ⊢
      rw [gather_cons hstep, gather_cons hstep]
      calc p.queue ++ (p.takesIn e ++ gather takesIn p₁ events)
          = p.takesOut e ++ (p₁.queue ++ gather takesIn p₁ events) := by
            rw [← List.append_assoc, hone, List.append_assoc]
        _ = p.takesOut e ++ gather takesOut p₁ events ++ p'.queue := by
            rw [hrest, List.append_assoc]

/-- What is queued is handed over, in the same order. -/
theorem accepted_sublist {p p' : Pool κ} {events : List (PoolEvent κ)}
    (h : p.run events = some p') : (p.accepted events).Sublist (submitted events) := by
  induction events generalizing p with
  | nil => exact List.Sublist.refl _
  | cons e events ih =>
      obtain ⟨p₁, hstep, hrun⟩ := run_cons.mp h
      have hone : (p.takesIn e).Sublist (handed e) := by
        cases e with
        | submit c => cases hroom : p.hasRoom <;> simp [takesIn, handed, hroom]
        | take | finish | beginDrain | leave => exact List.Sublist.refl _
      unfold accepted submitted
      rw [gather_cons hstep, List.flatMap_cons]
      exact hone.append (ih hrun)

/-! ## §5. What becomes of connections. -/

/-- The connections that were taken in, by what has become of them. -/
def kept (p : Pool κ) : List κ := p.queue ++ p.serving ++ p.finished

/-- All connections, by what has become of them. -/
def outcomes (p : Pool κ) : List κ := p.refused ++ p.queue ++ p.serving ++ p.finished

theorem outcomes_eq (p : Pool κ) : p.outcomes = p.refused ++ p.kept := by
  simp [outcomes, kept]

/-- A new pool has no connections. -/
theorem kept_start (workers capacity : Nat) : (start workers capacity : Pool κ).kept = [] := by
  simp [kept, start, serving_eq, Worker.connection?]

/-- A worker that turns to something else serves that, and no longer what it
served; the others go on. -/
theorem count_serving_set [DecidableEq κ] {workers : List (Worker κ)} {i : Nat} {w : Worker κ}
    (h : workers[i]? = some w) (w' : Worker κ) (c : κ) :
    ((workers.set i w').filterMap Worker.connection?).count c + w.connection?.toList.count c
      = (workers.filterMap Worker.connection?).count c + w'.connection?.toList.count c := by
  obtain ⟨others, hold, hnew⟩ := exists_perm_of_set h w'
  have hcount (v : Worker κ) : ((v :: others).filterMap Worker.connection?).count c
      = v.connection?.toList.count c + (others.filterMap Worker.connection?).count c := by
    rw [List.filterMap_cons]
    cases v.connection? <;> simp [List.count_cons, Nat.add_comm]
  rw [(hold.filterMap _).count_eq, (hnew.filterMap _).count_eq, hcount, hcount]
  omega

/-- What an event takes in is kept from then on. -/
theorem Happens.kept_law {p p' : Pool κ} {e : PoolEvent κ} (h : Happens p e p') :
    p'.kept.Perm (p.kept ++ p.takesIn e) := by
  classical
  rw [List.perm_iff_count]
  intro c
  unfold kept
  rw [serving_eq, serving_eq]
  cases h with
  | queued d room =>
      simp only [takesIn, room, if_true, List.count_append]
      omega
  | refused d noRoom => simp [takesIn, noRoom]
  | taken i d queue idle first =>
      -- The worker serves what was first in the queue.
      have hserving := count_serving_set idle (.serving d) c
      simp only [takesIn, first, Worker.connection?, Option.toList, List.count_append,
        List.count_cons, List.count_nil] at hserving ⊢
      omega
  | finished i panicked d busy =>
      have hserving := count_serving_set busy .idle c
      simp only [takesIn, Worker.connection?, Option.toList, List.count_append, List.count_cons,
        List.count_nil] at hserving ⊢
      omega
  | closed => simp [takesIn]
  | left i idle shut empty =>
      have hserving := count_serving_set idle .gone c
      simp only [takesIn, Worker.connection?, Option.toList, List.count_append,
        List.count_nil] at hserving ⊢
      omega

theorem Happens.outcomes_law {p p' : Pool κ} {e : PoolEvent κ} (h : Happens p e p') :
    p'.outcomes.Perm (p.outcomes ++ handed e) := by
  have hkept := h.kept_law
  rw [outcomes_eq, outcomes_eq]
  cases h with
  | queued c room =>
      simp only [takesIn, room, if_true] at hkept
      rw [List.append_assoc]
      exact hkept.append_left _
  | refused c noRoom =>
      -- The connection stands behind those refused before, not behind those kept.
      simp only [takesIn, noRoom] at hkept
      show (p.refused ++ [c] ++ p.kept).Perm (p.refused ++ p.kept ++ [c])
      rw [List.append_assoc, List.append_assoc]
      exact List.perm_append_comm.append_left _
  | taken i c queue idle first => exact (hkept.append_left _).trans (by simp [takesIn, handed])
  | finished i panicked c busy => exact (hkept.append_left _).trans (by simp [takesIn, handed])
  | closed => exact (hkept.append_left _).trans (by simp [takesIn, handed])
  | left i idle shut empty => exact (hkept.append_left _).trans (by simp [takesIn, handed])

/-- What a run queues is kept: it waits, is served or is finished. -/
theorem kept_law {p p' : Pool κ} {events : List (PoolEvent κ)} (h : p.run events = some p') :
    p'.kept.Perm (p.kept ++ p.accepted events) := by
  induction events generalizing p with
  | nil =>
      obtain rfl : p = p' := Option.some.inj h
      simp [accepted, gather]
  | cons e events ih =>
      obtain ⟨p₁, hstep, hrun⟩ := run_cons.mp h
      have hone := (happens_of_step hstep).kept_law
      unfold accepted at ih ⊢
      rw [gather_cons hstep, ← List.append_assoc]
      exact (ih hrun).trans (hone.append_right _)

/-- **Every connection is refused, waiting, served or finished**, and as often
as it was handed over. -/
theorem outcomes_law {p p' : Pool κ} {events : List (PoolEvent κ)}
    (h : p.run events = some p') : p'.outcomes.Perm (p.outcomes ++ submitted events) := by
  induction events generalizing p with
  | nil =>
      obtain rfl : p = p' := Option.some.inj h
      simp [submitted]
  | cons e events ih =>
      obtain ⟨p₁, hstep, hrun⟩ := run_cons.mp h
      have hone := (happens_of_step hstep).outcomes_law
      unfold submitted at ih ⊢
      rw [List.flatMap_cons, ← List.append_assoc]
      exact (ih hrun).trans (hone.append_right _)

/-! ## §6. Sizes, and who has left. -/

/-- What holds of a pool at any time, whoever acts next. -/
structure Sound (workers capacity : Nat) (p : Pool κ) : Prop where
  size : p.workers.length = max 1 workers
  capacity : p.capacity = max 1 capacity
  bounded : p.queue.length ≤ p.capacity
  /-- A worker that has left has left nothing behind, and nothing comes. -/
  left : .gone ∈ p.workers → p.isOpen = false ∧ p.queue = []

theorem sound_start (workers capacity : Nat) :
    (start workers capacity : Pool κ).Sound workers capacity where
  size := by
    show (List.replicate (max workers 1) _).length = _
    rw [List.length_replicate, Nat.max_comm]
  capacity := Nat.max_comm _ _
  bounded := Nat.zero_le _
  left := by
    intro hgone
    have hidle := List.eq_of_mem_replicate hgone
    simp at hidle

/-- Only a worker that leaves is gone then. -/
theorem mem_of_mem_set {workers : List (Worker κ)} {i : Nat} {w : Worker κ} (hw : w ≠ .gone)
    (h : .gone ∈ workers.set i w) : .gone ∈ workers := by
  rcases List.mem_or_eq_of_mem_set h with h | h
  · exact h
  · exact absurd h.symm hw

theorem Sound.step {workers capacity : Nat} {p p' : Pool κ} {e : PoolEvent κ}
    (hp : p.Sound workers capacity) (h : Happens p e p') : p'.Sound workers capacity := by
  obtain ⟨hsize, hcapacity, hbounded, hleft⟩ := hp
  cases h with
  | queued c room =>
      simp only [hasRoom, Bool.and_eq_true, decide_eq_true_eq] at room
      refine ⟨hsize, hcapacity, ?_, ?_⟩
      · show (p.queue ++ [c]).length ≤ p.capacity
        rw [List.length_append, List.length_singleton]
        omega
      · intro hgone
        -- Who has left did so after the pool was shut, but it is open.
        have hshut := (hleft hgone).1
        rw [room.1] at hshut
        exact absurd hshut (by simp)
  | refused c noRoom => exact ⟨hsize, hcapacity, hbounded, hleft⟩
  | taken i c queue idle first =>
      refine ⟨by simpa using hsize, hcapacity, ?_, ?_⟩
      · rw [first, List.length_cons] at hbounded
        show queue.length ≤ p.capacity
        omega
      · -- Nobody has left yet, as something waits.
        intro hgone
        have hempty := (hleft (mem_of_mem_set (by simp) hgone)).2
        rw [first] at hempty
        exact absurd hempty (by simp)
  | finished i panicked c busy =>
      refine ⟨by simpa using hsize, hcapacity, hbounded, ?_⟩
      intro hgone
      exact hleft (mem_of_mem_set (by simp) hgone)
  | closed =>
      refine ⟨hsize, hcapacity, hbounded, ?_⟩
      intro hgone
      exact ⟨rfl, (hleft hgone).2⟩
  | left i idle shut empty =>
      refine ⟨by simpa using hsize, hcapacity, hbounded, ?_⟩
      intro _
      exact ⟨shut, empty⟩

theorem Sound.run {workers capacity : Nat} {p p' : Pool κ} {events : List (PoolEvent κ)}
    (hp : p.Sound workers capacity) (h : p.run events = some p') : p'.Sound workers capacity := by
  induction events generalizing p with
  | nil =>
      obtain rfl : p = p' := Option.some.inj h
      exact hp
  | cons e events ih =>
      obtain ⟨p₁, hstep, hrun⟩ := run_cons.mp h
      exact ih (hp.step (happens_of_step hstep)) hrun

/-- Only a drain closes the queue. -/
theorem Happens.isOpen_eq_false_iff {p p' : Pool κ} {e : PoolEvent κ} (h : Happens p e p') :
    p'.isOpen = false ↔ p.isOpen = false ∨ e = .beginDrain := by
  cases h <;> simp

/-- The queue is closed once a drain has begun, and not before. -/
theorem isOpen_eq_false_iff {p p' : Pool κ} {events : List (PoolEvent κ)}
    (h : p.run events = some p') :
    p'.isOpen = false ↔ p.isOpen = false ∨ .beginDrain ∈ events := by
  induction events generalizing p with
  | nil =>
      obtain rfl : p = p' := Option.some.inj h
      simp
  | cons e events ih =>
      obtain ⟨p₁, hstep, hrun⟩ := run_cons.mp h
      rw [ih hrun, (happens_of_step hstep).isOpen_eq_false_iff, List.mem_cons, or_assoc]
      simp only [eq_comm]

theorem Sound.hasRoom_eq_false_iff {workers capacity : Nat} {p : Pool κ}
    (hp : p.Sound workers capacity) :
    p.hasRoom = false ↔ p.queue.length = max 1 capacity ∨ p.isOpen = false := by
  have hcapacity := hp.capacity
  have hbounded := hp.bounded
  unfold hasRoom
  rw [Bool.and_eq_false_iff, decide_eq_false_iff_not]
  constructor
  · rintro (hshut | hfull)
    · exact .inr hshut
    · exact .inl (by omega)
  · rintro (hfull | hshut)
    · exact .inr (by omega)
    · exact .inl hshut

/-- A worker that is done with a connection, by a panic or not, is there for
the next one, and as many workers are there as before. -/
theorem staff_of_finish {p p' : Pool κ} {i : Nat} {panicked : Bool}
    (h : p.step (.finish i panicked) = some p') :
    p'.staff = p.staff ∧ p'.workers[i]? = some .idle := by
  cases happens_of_step h with
  | finished _ _ c busy =>
      obtain ⟨others, hold, hnew⟩ := exists_perm_of_set busy .idle
      refine ⟨?_, ?_⟩
      · show (p.workers.set i .idle).countP _ = p.workers.countP _
        rw [hnew.countP_eq, hold.countP_eq]
        rfl
      · obtain ⟨hi, -⟩ := List.getElem?_eq_some_iff.mp busy
        show (p.workers.set i .idle)[i]? = _
        rw [List.getElem?_set_self hi]

/-- Once all workers have left, every connection that was taken in is finished. -/
theorem Sound.kept_eq_finished {workers capacity : Nat} {p : Pool κ}
    (hp : p.Sound workers capacity) (hgone : ∀ w ∈ p.workers, w = .gone) :
    p.kept = p.finished := by
  have hsize := hp.size
  -- There is a worker, so one has left, and nothing waits.
  have hqueue : p.queue = [] := by
    cases hworkers : p.workers with
    | nil =>
        rw [hworkers, List.length_nil] at hsize
        omega
    | cons w ws =>
        have hw := hgone w (by rw [hworkers]; exact List.mem_cons_self)
        have hmem : .gone ∈ p.workers := by
          rw [hworkers, hw]
          exact List.mem_cons_self
        exact (hp.left hmem).2
  have hserving : p.serving = [] := by
    rw [serving_eq, List.filterMap_eq_nil_iff]
    intro w hw
    rw [hgone w hw]
    rfl
  rw [kept, hqueue, hserving]
  rfl

/-! ## §7. Whole runs. -/

/-- **The pool loses no connection and serves none twice.**  After any events:

  • every connection that was handed over is refused, waiting, served or
    finished, as often as it was handed over; so if all were different it is in
    one of these states only, and served by one worker only;
  • no more wait than there are places, and no more are served than there are
    workers;
  • connections were taken from the queue in the order in which they were handed
    over, and those that wait come next;
  • a connection that is handed over now is refused exactly if all places are
    taken or a drain has begun, and waits behind the others otherwise;
  • a worker whose connection ends, also by a panic, is idle then, and no worker
    is missing;
  • a worker leaves only when a drain has begun and nothing waits, and nothing
    waits from then on; once all have left, exactly the connections that were
    queued are finished. -/
theorem run_accounts {workers capacity : Nat} {events : List (PoolEvent κ)} {p : Pool κ}
    (h : (start workers capacity).run events = some p) :
    (p.refused ++ p.queue ++ p.serving ++ p.finished).Perm (submitted events)
      ∧ ((submitted events).Nodup →
          (p.refused ++ p.queue ++ p.serving ++ p.finished).Nodup
          ∧ ∀ (i j : Nat) (c : κ), p.workers[i]? = some (Worker.serving c)
              → p.workers[j]? = some (Worker.serving c) → i = j)
      ∧ p.queue.length ≤ max 1 capacity ∧ p.serving.length ≤ max 1 workers
      ∧ taken (start workers capacity) events ++ p.queue
          = accepted (start workers capacity) events
      ∧ (accepted (start workers capacity) events).Sublist (submitted events)
      ∧ (∀ c, (p.queue.length = max 1 capacity ∨ PoolEvent.beginDrain ∈ events
            → p.step (.submit c) = some { p with refused := p.refused ++ [c] })
          ∧ (¬ (p.queue.length = max 1 capacity ∨ PoolEvent.beginDrain ∈ events)
            → p.step (.submit c) = some { p with queue := p.queue ++ [c] }))
      ∧ (∀ i panicked p', p.step (.finish i panicked) = some p' →
          p'.staff = p.staff ∧ p'.workers[i]? = some .idle)
      ∧ (∀ i p', p.step (.leave i) = some p' → PoolEvent.beginDrain ∈ events ∧ p.queue = [])
      ∧ (Worker.gone ∈ p.workers → PoolEvent.beginDrain ∈ events ∧ p.queue = [])
      ∧ ((∀ w ∈ p.workers, w = .gone) →
          p.finished.Perm (accepted (start workers capacity) events)) := by
  have hsound := (sound_start workers capacity).run h
  have houtcomes : p.outcomes.Perm (submitted events) := by
    have hall := outcomes_law h
    rw [outcomes_eq (start workers capacity), kept_start] at hall
    exact hall
  have hshut : p.isOpen = false ↔ PoolEvent.beginDrain ∈ events := by
    rw [isOpen_eq_false_iff h]
    simp [start]
  refine ⟨houtcomes, ?_, ?_, ?_, ?_, accepted_sublist h, ?_, fun _ _ _ => staff_of_finish, ?_, ?_,
    ?_⟩
  · intro hnodup
    have hall : p.outcomes.Nodup := houtcomes.nodup_iff.mpr hnodup
    refine ⟨hall, ?_⟩
    intro i j c hi hj
    -- Two workers with one connection would list it twice.
    have hserving : p.serving.Nodup := by
      refine hall.sublist ?_
      exact (List.sublist_append_right _ _).trans (List.sublist_append_left _ _)
    rw [serving_eq] at hserving
    exact eq_of_serving hserving hi hj
  · rw [← hsound.capacity]
    exact hsound.bounded
  · rw [serving_eq, ← hsound.size]
    exact List.length_filterMap_le _ _
  · -- The queue began empty, so what was taken and what waits is all that it accepted.
    have hqueue := queue_law h
    rw [← hqueue]
    rfl
  · intro c
    -- No place is left or the pool is shut: this is what having no room means.
    rw [← hshut, ← hsound.hasRoom_eq_false_iff]
    simp only [step, submit]
    cases p.hasRoom <;> simp
  · intro i p' hleave
    cases happens_of_step hleave with
    | left _ idle shut empty => exact ⟨hshut.mp shut, empty⟩
  · intro hgone
    obtain ⟨hclosed, hempty⟩ := hsound.left hgone
    exact ⟨hshut.mp hclosed, hempty⟩
  · intro hgone
    -- With everybody gone nothing waits and nobody serves, so all that was kept is finished.
    have hkept := kept_law h
    rwa [hsound.kept_eq_finished hgone, kept_start] at hkept

/-- One worker and one place to wait: the third connection comes while the
second waits, the fourth during the drain, and the first ends by a panic. -/
theorem run_accounts_busy :
    let events : List (PoolEvent Nat) := [.submit 1, .take 0, .submit 2, .submit 3,
      .finish 0 true, .take 0, .beginDrain, .submit 4, .finish 0 false, .leave 0]
    ∃ p, (start 1 1).run events = some p ∧ p.refused = [3, 4] ∧ p.finished.Perm [1, 2] := by
  intro events
  have hrun : (start 1 1).run events = some ⟨[.gone], 1, [], false, [3, 4], [1, 2]⟩ := by decide
  obtain ⟨-, -, -, -, -, -, -, -, -, -, hfinished⟩ := run_accounts hrun
  have haccepted : accepted (start 1 1) events = [1, 2] := by decide
  refine ⟨_, hrun, rfl, ?_⟩
  rewrite [haccepted] at hfinished
  exact hfinished (by decide)

end Pool

end Switchyard
