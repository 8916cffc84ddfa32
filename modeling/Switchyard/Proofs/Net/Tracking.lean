/-
  Switchyard.Proofs.Net.Tracking
  ──────────────────────────────
  Trackers and guards over whole runs: trackers are made, cloned and dropped,
  connections are tracked through any of them, and guards are dropped or replaced,
  in any order.  The counter is a 64-bit word that only goes up and down by one,
  and still it is the number of guards: each of them is an owner of the counter,
  and a counter has too few owners for its word to run over.

      SharedCounter.Balanced  — owners and counter are what they should be
      Sound                   — kept by every call: all counters are balanced
      Ledger                  — what was made and dropped, told by the calls alone

  Main statements:

      Connections.waitIdle_eq_true_iff — when waiting ends well
      Sound.step, Ledger.Records.step  — one call
      run_counts_guards
-/
import Mathlib.Data.List.Induction
import Switchyard.Net.Connections
import Switchyard.Proofs.Roster

namespace Switchyard

/-! ## §1. Waiting. -/

namespace Connections

theorem waitFrom_eq_true_iff (seen : Nat → Connections) (clock : Clock) (deadline i : Nat) :
    waitFrom seen clock deadline i = true
      ↔ ∃ j, i ≤ j ∧ (seen j).isIdle = true ∧ ∀ k, i ≤ k → k < j → clock.look k < deadline := by
  fun_induction waitFrom seen clock deadline i with
  | case1 i idle => exact iff_of_true rfl ⟨i, le_rfl, idle, fun k h1 h2 => by omega⟩
  | case2 i busy late =>
      refine iff_of_false Bool.false_ne_true ?_
      rintro ⟨j, hij, hidle, hbefore⟩
      obtain rfl | hlt := hij.eq_or_lt
      · exact busy hidle
      · exact absurd (hbefore i le_rfl hlt) (not_lt.mpr late)
  | case3 i busy early ih =>
      -- This look ends nothing, and it comes early enough for a later one to.
      rw [ih]
      constructor
      · rintro ⟨j, hij, hidle, hbefore⟩
        refine ⟨j, Nat.le_of_succ_le hij, hidle, fun k h1 h2 => ?_⟩
        obtain rfl | hlt := h1.eq_or_lt
        · exact not_le.mp early
        · exact hbefore k hlt h2
      · rintro ⟨j, hij, hidle, hbefore⟩
        obtain rfl | hlt := hij.eq_or_lt
        · exact absurd hidle busy
        · exact ⟨j, hlt, hidle, fun k h1 h2 => hbefore k (Nat.le_of_succ_le h1) h2⟩

/-- **Waiting comes to an end**, and tells whether at some look no connection was
open while all looks before it came before the deadline. -/
theorem waitIdle_eq_true_iff (seen : Nat → Connections) (timeoutMillis : Nat) (clock : Clock) :
    waitIdle seen timeoutMillis clock = true
      ↔ ∃ j, (seen j).isIdle = true ∧ ∀ k < j, clock.look k < clock.start + timeoutMillis := by
  simp only [waitIdle, waitFrom_eq_true_iff, Nat.zero_le, true_and, true_implies]

/-- While nothing happens, waiting tells what there is to see. -/
theorem waitIdle_const (c : Connections) (timeoutMillis : Nat) (clock : Clock) :
    waitIdle (fun _ => c) timeoutMillis clock = c.isIdle := by
  rw [Bool.eq_iff_iff, waitIdle_eq_true_iff]
  constructor
  · rintro ⟨_, hidle, _⟩
    exact hidle
  · intro hidle
    exact ⟨0, hidle, fun k hk => absurd hk (Nat.not_lt_zero k)⟩

end Connections

/-! ## §2. Counters. -/

namespace SharedCounter

/-- A counter that is owned by so many trackers and guards, and counts the
guards. -/
structure Balanced (c : SharedCounter) (trackers guards : Nat) : Prop where
  owners : c.owners = trackers + guards
  few : c.owners ≤ maxOwners + 1
  active : c.connections.active.toNat = guards

theorem Balanced.new : new.Balanced 1 0 :=
  ⟨rfl, by decide, rfl⟩

variable {c c' : SharedCounter} {trackers guards : Nat}

theorem share?_eq_some_iff :
    c.share? = some c' ↔ c.owners ≤ maxOwners ∧ c' = { c with owners := c.owners + 1 } := by
  unfold share?
  split
  · next h => exact iff_of_false nofun fun h' => absurd h'.1 (not_le.mpr h)
  · next h => exact ⟨fun h' => ⟨not_lt.mp h, (Option.some.inj h').symm⟩, fun h' => h'.2 ▸ rfl⟩

theorem Balanced.share? (h : c.Balanced trackers guards) (hc : c.share? = some c') :
    c'.Balanced (trackers + 1) guards := by
  obtain ⟨hfew, rfl⟩ := share?_eq_some_iff.mp hc
  refine ⟨?_, Nat.succ_le_succ hfew, h.active⟩
  show c.owners + 1 = trackers + 1 + guards
  rw [h.owners, Nat.add_right_comm]

theorem Balanced.disown (h : c.Balanced (trackers + 1) guards) :
    c.disown.Balanced trackers guards := by
  refine ⟨?_, (Nat.sub_le c.owners 1).trans h.few, h.active⟩
  show c.owners - 1 = trackers + guards
  rw [h.owners, Nat.add_right_comm, Nat.add_sub_cancel]

/-- One guard more could still be counted in a word, since each of them is an
owner. -/
theorem Balanced.guards_lt (h : c.Balanced trackers guards) : guards + 1 < UInt64.size := by
  have howners := h.owners
  have hfew := h.few
  simp only [maxOwners, UInt64.size] at hfew ⊢
  omega

theorem Balanced.track? (h : c.Balanced trackers guards) (hc : c.track? = some c') :
    c'.Balanced trackers (guards + 1) := by
  obtain ⟨hfew, rfl⟩ := share?_eq_some_iff.mp hc
  refine ⟨?_, Nat.succ_le_succ hfew, ?_⟩
  · show c.owners + 1 = trackers + (guards + 1)
    rw [h.owners, Nat.add_assoc]
  · show (c.connections.active + 1).toNat = guards + 1
    rw [UInt64.toNat_add, h.active, UInt64.toNat_one, Nat.mod_eq_of_lt h.guards_lt]

/-- **A guard that goes never finds the counter at zero.** -/
theorem Balanced.active_ne_zero (h : c.Balanced trackers guards) (hpos : 0 < guards) :
    c.connections.active ≠ 0 := by
  intro hzero
  have hactive := h.active
  rw [hzero] at hactive
  exact hpos.ne hactive

theorem Balanced.release (h : c.Balanced trackers (guards + 1)) :
    c.release.Balanced trackers guards := by
  refine ⟨?_, (Nat.sub_le c.owners 1).trans h.few, ?_⟩
  · show c.owners - 1 = trackers + guards
    rw [h.owners, ← Nat.add_assoc, Nat.add_sub_cancel]
  · show (c.connections.active - 1).toNat = guards
    have hle : (1 : UInt64) ≤ c.connections.active := by
      rw [UInt64.le_iff_toNat_le, h.active, UInt64.toNat_one]
      exact Nat.le_add_left 1 guards
    rw [UInt64.toNat_sub_of_le _ _ hle, h.active, UInt64.toNat_one, Nat.add_sub_cancel]

theorem Balanced.isIdle_iff (h : c.Balanced trackers guards) :
    c.connections.isIdle = true ↔ guards = 0 := by
  rw [Connections.isIdle, decide_eq_true_iff, ← UInt64.toNat_inj, h.active]
  rfl

end SharedCounter

namespace Tracking

/-! ## §3. What one call does. -/

variable {s s' : Tracking} {tracker guard connection place : Nat}

/-- All that can be done with one counter: it is found, changed and put back. -/
theorem bind_change?_eq_some_iff {α : Type} {found? : Option α} {placeOf : α → Nat}
    {change : SharedCounter → Option SharedCounter} {finish : α → Tracking → Tracking} :
    (do
        let a ← found?
        let s ← s.change? (placeOf a) change
        return finish a s) = some s'
      ↔ ∃ a c c', found? = some a ∧ s.counters.get? (placeOf a) = some c ∧ change c = some c'
        ∧ s' = finish a { s with counters := s.counters.insert (placeOf a) c' } := by
  simp only [change?, Option.bind_eq_bind, Option.bind_eq_some_iff, Option.pure_def,
    Option.some.injEq]
  constructor
  · rintro ⟨a, ha, _, ⟨c, hc, c', hc', rfl⟩, rfl⟩
    exact ⟨a, c, c', ha, hc, hc', rfl⟩
  · rintro ⟨a, c, c', ha, hc, hc', rfl⟩
    exact ⟨a, ha, _, ⟨c, hc, c', hc', rfl⟩, rfl⟩

theorem clone_eq_some_iff :
    s.clone tracker = some s' ↔ ∃ place c c', s.trackers.get? tracker = some place
      ∧ s.counters.get? place = some c ∧ c.share? = some c'
      ∧ s' = { s with
        counters := s.counters.insert place c', trackers := s.trackers.add place } :=
  bind_change?_eq_some_iff

theorem discard_eq_some_iff :
    s.discard tracker = some s' ↔ ∃ place c, s.trackers.get? tracker = some place
      ∧ s.counters.get? place = some c
      ∧ s' = { s with
        counters := s.counters.insert place c.disown, trackers := s.trackers.remove tracker } := by
  rw [discard, bind_change?_eq_some_iff]
  simp only [Option.some.injEq, exists_and_left, exists_eq_left']

theorem track_eq_some_iff :
    s.track tracker connection = some s' ↔ ∃ place c c', s.trackers.get? tracker = some place
      ∧ s.counters.get? place = some c ∧ c.track? = some c'
      ∧ s' = { s with
        counters := s.counters.insert place c', guards := s.guards.add ⟨place, connection⟩ } :=
  bind_change?_eq_some_iff

theorem drop_eq_some_iff :
    s.drop guard = some s' ↔ ∃ g c, s.guards.get? guard = some g
      ∧ s.counters.get? g.counter = some c
      ∧ s' = { s with
        counters := s.counters.insert g.counter c.release, guards := s.guards.remove guard } := by
  rw [drop, bind_change?_eq_some_iff]
  simp only [Option.some.injEq, exists_and_left, exists_eq_left']

theorem replace_eq_some_iff :
    s.replace guard tracker connection = some s'
      ↔ ∃ between, s.track tracker connection = some between ∧ between.drop guard = some s' := by
  simp only [replace, Option.bind_eq_bind, Option.bind_eq_some_iff]

/-! ## §4. Counters and owners over whole runs. -/

/-- How many trackers share the counter at a place. -/
def trackersAt (s : Tracking) (place : Nat) : Nat := s.trackers.count fun p => p = place

/-- How many guards count in the counter at a place. -/
def guardsAt (s : Tracking) (place : Nat) : Nat := s.guards.count fun g => g.counter = place

/-- Every counter is owned by the trackers and guards that refer to it, counts
the guards, and lies where a tracker was made. -/
structure Sound (s : Tracking) : Prop where
  balanced : ∀ place c, s.counters.get? place = some c →
    c.Balanced (s.trackersAt place) (s.guardsAt place)
  absent : ∀ place, s.counters.get? place = none → s.trackersAt place = 0 ∧ s.guardsAt place = 0
  fresh : ∀ place, s.trackers.made ≤ place → s.counters.get? place = none

theorem Sound.empty : empty.Sound :=
  ⟨nofun, fun _ _ => ⟨rfl, rfl⟩, fun _ _ => rfl⟩

/-- To change one counter and those that refer to it leaves the others balanced. -/
theorem Sound.insert (h : s.Sound) {c : SharedCounter} {trackers : Roster Nat}
    {guards : Roster Guard} {owned held : Nat} (hc : c.Balanced owned held)
    (howned : (trackers.count fun p => p = place) = owned)
    (hheld : (guards.count fun g => g.counter = place) = held)
    (htrackers : ∀ p, p ≠ place → (trackers.count fun q => q = p) = s.trackersAt p)
    (hguards : ∀ p, p ≠ place → (guards.count fun g => g.counter = p) = s.guardsAt p)
    (hplace : place < trackers.made) (hmade : s.trackers.made ≤ trackers.made) :
    Sound ⟨s.counters.insert place c, trackers, guards⟩ where
  -- What is asked of a place is given for the new counter, and was so for the others.
  balanced p d hd := by
    rw [Table.get?_insert] at hd
    split at hd
    · next hp =>
      obtain rfl := Option.some.inj hd
      rw [trackersAt, guardsAt, hp, howned, hheld]
      exact hc
    · next hp =>
      rw [trackersAt, guardsAt, htrackers p hp, hguards p hp]
      exact h.balanced p d hd
  absent p hp := by
    rw [Table.get?_insert] at hp
    split at hp
    · cases hp
    · next hne =>
      rw [trackersAt, guardsAt, htrackers p hne, hguards p hne]
      exact h.absent p hp
  fresh p hp := by
    have hne : p ≠ place := (hplace.trans_le hp).ne'
    rw [Table.get?_insert, if_neg hne]
    exact h.fresh p (hmade.trans hp)

theorem Sound.place_lt (h : s.Sound) {c : SharedCounter} (hc : s.counters.get? place = some c) :
    place < s.trackers.made := by
  by_contra hle
  rw [h.fresh place (not_lt.mp hle)] at hc
  exact nomatch hc

theorem Sound.exists_trackerCounter (h : s.Sound) (ht : s.trackers.get? tracker = some place) :
    ∃ c, s.counters.get? place = some c := by
  apply Option.ne_none_iff_exists'.mp
  intro hnone
  exact (Roster.count_pos ht (decide_eq_true rfl)).ne' (h.absent place hnone).1

theorem Sound.exists_guardCounter (h : s.Sound) {g : Guard} (hg : s.guards.get? guard = some g) :
    ∃ c, s.counters.get? g.counter = some c := by
  apply Option.ne_none_iff_exists'.mp
  intro hnone
  have hpos : 0 < s.guardsAt g.counter := Roster.count_pos hg (decide_eq_true rfl)
  exact hpos.ne' (h.absent g.counter hnone).2

theorem Sound.new (h : s.Sound) : s.new.Sound := by
  -- The place is a new one, so nothing has referred to it so far.
  obtain ⟨htrackers, hguards⟩ := h.absent _ (h.fresh s.trackers.made le_rfl)
  have hcount : (s.trackers.add s.trackers.made).count (fun p => p = s.trackers.made)
      = s.trackersAt s.trackers.made + 1 := Roster.count_add_of_pos (decide_eq_true rfl)
  rw [htrackers] at hcount
  refine h.insert .new hcount hguards
    (fun p hp => Roster.count_add_of_neg (decide_eq_false hp.symm)) (fun p _ => rfl) ?_ ?_
  · rw [Roster.made_add]
    exact Nat.lt_succ_self _
  · rw [Roster.made_add]
    exact Nat.le_succ _

theorem Sound.clone (h : s.Sound) (hs : s.clone tracker = some s') : s'.Sound := by
  obtain ⟨place, c, c', ht, hc, hshare, rfl⟩ := clone_eq_some_iff.mp hs
  refine h.insert ((h.balanced place c hc).share? hshare)
    (Roster.count_add_of_pos (decide_eq_true rfl)) rfl
    (fun p hp => Roster.count_add_of_neg (decide_eq_false hp.symm)) (fun p _ => rfl) ?_ ?_
  · rw [Roster.made_add]
    exact Nat.lt_succ_of_lt (h.place_lt hc)
  · rw [Roster.made_add]
    exact Nat.le_succ _

theorem Sound.discard (h : s.Sound) (hs : s.discard tracker = some s') : s'.Sound := by
  obtain ⟨place, c, ht, hc, rfl⟩ := discard_eq_some_iff.mp hs
  have hbalanced := h.balanced place c hc
  have hcount : (s.trackers.remove tracker).count (fun p => p = place) + 1 = s.trackersAt place :=
    Roster.count_remove_of_pos ht (decide_eq_true rfl)
  rw [← hcount] at hbalanced
  refine h.insert hbalanced.disown rfl rfl
    (fun p hp => Roster.count_remove_of_neg ht (decide_eq_false hp.symm)) (fun p _ => rfl) ?_ ?_
  · rw [Roster.made_remove]
    exact h.place_lt hc
  · rw [Roster.made_remove]

theorem Sound.track (h : s.Sound) (hs : s.track tracker connection = some s') : s'.Sound := by
  obtain ⟨place, c, c', ht, hc, htrack, rfl⟩ := track_eq_some_iff.mp hs
  exact h.insert ((h.balanced place c hc).track? htrack) rfl
    (Roster.count_add_of_pos (decide_eq_true rfl)) (fun p _ => rfl)
    (fun p hp => Roster.count_add_of_neg (decide_eq_false hp.symm)) (h.place_lt hc) le_rfl

theorem Sound.drop (h : s.Sound) (hs : s.drop guard = some s') : s'.Sound := by
  obtain ⟨g, c, hg, hc, rfl⟩ := drop_eq_some_iff.mp hs
  have hbalanced := h.balanced g.counter c hc
  have hcount : (s.guards.remove guard).count (fun g' => g'.counter = g.counter) + 1
      = s.guardsAt g.counter := Roster.count_remove_of_pos hg (decide_eq_true rfl)
  rw [← hcount] at hbalanced
  exact h.insert hbalanced.release rfl rfl (fun p _ => rfl)
    (fun p hp => Roster.count_remove_of_neg hg (decide_eq_false hp.symm)) (h.place_lt hc) le_rfl

/-- **One call keeps every counter balanced.** -/
theorem Sound.step (h : s.Sound) {call : Call} (hs : s.step call = some s') : s'.Sound := by
  cases call with
  | new => exact Option.some.inj hs ▸ h.new
  | clone t => exact h.clone hs
  | discard t => exact h.discard hs
  | track t n => exact h.track hs
  | drop n => exact h.drop hs
  | replace n t i =>
      obtain ⟨between, htrack, hdrop⟩ := replace_eq_some_iff.mp hs
      exact (h.track htrack).drop hdrop

theorem run_concat (calls : List Call) (call : Call) :
    s.run (calls ++ [call]) = some s' ↔ ∃ t, s.run calls = some t ∧ t.step call = some s' := by
  rw [run, List.foldlM_append, Option.bind_eq_bind, Option.bind_eq_some_iff]
  refine exists_congr fun t => and_congr_right fun _ => ?_
  rw [List.foldlM_cons, Option.bind_eq_bind]
  show (t.step call).bind some = some s' ↔ _
  rw [Option.bind_fun_some]

theorem Sound.run {calls : List Call} (h : s.Sound) (hs : s.run calls = some s') : s'.Sound := by
  induction calls using List.reverseRecOn generalizing s' with
  | nil => exact Option.some.inj hs ▸ h
  | append_singleton calls call ih =>
      obtain ⟨t, ht, hstep⟩ := (run_concat calls call).mp hs
      exact (ih ht).step hstep

/-! ## §5. What the calls say. -/

/-- What is known of calls without looking at a counter: of every tracker and
every guard that was made, in order, the tracker at its origin, to which it goes
back through clones; and the numbers of those that were dropped. -/
structure Ledger where
  trackers : List Nat
  guards : List Nat
  discarded : List Nat
  dropped : List Nat
  deriving DecidableEq, Repr

namespace Ledger

def empty : Ledger := ⟨[], [], [], []⟩

/-- The ledger after a call was made. -/
def enter (l : Ledger) : Call → Ledger
  | .new => { l with trackers := l.trackers ++ [l.trackers.length] }
  | .clone tracker => { l with trackers := l.trackers ++ l.trackers[tracker]?.toList }
  | .discard tracker => { l with discarded := l.discarded ++ [tracker] }
  | .track tracker _ => { l with guards := l.guards ++ l.trackers[tracker]?.toList }
  | .drop guard => { l with dropped := l.dropped ++ [guard] }
  | .replace guard tracker _ =>
      { l with
        guards := l.guards ++ l.trackers[tracker]?.toList, dropped := l.dropped ++ [guard] }

def ofCalls (calls : List Call) : Ledger := calls.foldl enter empty

/-- The trackers of an origin that are not dropped. -/
def trackersOf (l : Ledger) (origin : Nat) : List Nat :=
  Roster.remaining l.trackers l.discarded origin

/-- The guards of an origin that are not dropped. -/
def guardsOf (l : Ledger) (origin : Nat) : List Nat :=
  Roster.remaining l.guards l.dropped origin

/-- Trackers and guards are there as the ledger has it. -/
structure Records (l : Ledger) (s : Tracking) : Prop where
  trackers : s.trackers.Shows id l.trackers l.discarded
  guards : s.guards.Shows Guard.counter l.guards l.dropped

variable {l : Ledger} {s s' : Tracking} {tracker guard connection place : Nat}

theorem Records.origin (h : l.Records s) (ht : s.trackers.get? tracker = some place) :
    l.trackers[tracker]? = some place :=
  (Roster.mem_remaining.mp (h.trackers.mem_remaining_iff.mpr ⟨place, ht, rfl⟩)).2

theorem Records.track (h : l.Records s) (hs : s.track tracker connection = some s') :
    (l.enter (.track tracker connection)).Records s' := by
  obtain ⟨place, c, c', ht, hc, htrack, rfl⟩ := track_eq_some_iff.mp hs
  refine ⟨h.trackers, ?_⟩
  simp only [enter, h.origin ht]
  exact h.guards.add ⟨place, connection⟩

theorem Records.drop (h : l.Records s) (hs : s.drop guard = some s') :
    (l.enter (.drop guard)).Records s' := by
  obtain ⟨g, c, hg, hc, rfl⟩ := drop_eq_some_iff.mp hs
  exact ⟨h.trackers, h.guards.remove hg⟩

/-- A call that can be made leaves what the ledger says of it. -/
theorem Records.step (h : l.Records s) {call : Call} (hs : s.step call = some s') :
    (l.enter call).Records s' := by
  cases call with
  | new =>
      obtain rfl := Option.some.inj hs
      refine ⟨?_, h.guards⟩
      simp only [enter, ← h.trackers.made_eq]
      exact h.trackers.add s.trackers.made
  | clone t =>
      obtain ⟨place, c, c', ht, hc, hshare, rfl⟩ := clone_eq_some_iff.mp hs
      refine ⟨?_, h.guards⟩
      simp only [enter, h.origin ht]
      exact h.trackers.add place
  | discard t =>
      obtain ⟨place, c, ht, hc, rfl⟩ := discard_eq_some_iff.mp hs
      exact ⟨h.trackers.remove ht, h.guards⟩
  | track t n => exact h.track hs
  | drop n => exact h.drop hs
  | replace n t i =>
      obtain ⟨between, htrack, hdrop⟩ := replace_eq_some_iff.mp hs
      exact (h.track htrack).drop hdrop

theorem Records.run {calls : List Call} (hs : Tracking.empty.run calls = some s) :
    (ofCalls calls).Records s := by
  -- What the ledger enters for a call depends on all calls before it, so the last
  -- call is the one to take off.
  induction calls using List.reverseRecOn generalizing s with
  | nil => exact Option.some.inj hs ▸ ⟨.empty, .empty⟩
  | append_singleton calls call ih =>
      obtain ⟨t, ht, hstep⟩ := (run_concat calls call).mp hs
      rw [ofCalls, List.foldl_concat]
      exact (ih ht).step hstep

/-- **A counter counts the guards that the ledger has.** -/
theorem Records.balanced (h : l.Records s) (hs : s.Sound) {c : SharedCounter}
    (hc : s.counters.get? place = some c) :
    c.Balanced (l.trackersOf place).length (l.guardsOf place).length := by
  rw [trackersOf, guardsOf, ← h.trackers.count_eq, ← h.guards.count_eq]
  exact hs.balanced place c hc

theorem Records.exists_trackerCounter (h : l.Records s) (hs : s.Sound)
    (ht : tracker ∈ l.trackersOf place) :
    ∃ c, s.trackers.get? tracker = some place ∧ s.counters.get? place = some c
      ∧ c.Balanced (l.trackersOf place).length (l.guardsOf place).length := by
  obtain ⟨_, hget, rfl⟩ := h.trackers.mem_remaining_iff.mp ht
  obtain ⟨c, hc⟩ := hs.exists_trackerCounter hget
  exact ⟨c, hget, hc, h.balanced hs hc⟩

theorem Records.exists_guardCounter (h : l.Records s) (hs : s.Sound)
    (hg : guard ∈ l.guardsOf place) :
    ∃ g c, s.guards.get? guard = some g ∧ s.counters.get? g.counter = some c ∧ g.counter = place
      ∧ c.Balanced (l.trackersOf place).length (l.guardsOf place).length := by
  obtain ⟨g, hget, rfl⟩ := h.guards.mem_remaining_iff.mp hg
  obtain ⟨c, hc⟩ := hs.exists_guardCounter hget
  exact ⟨g, c, hget, hc, rfl, h.balanced hs hc⟩

end Ledger

/-! ## §6. What trackers tell. -/

variable {s s' : Tracking} {tracker guard connection place : Nat} {c : SharedCounter}

theorem activeCount?_eq (ht : s.trackers.get? tracker = some place)
    (hc : s.counters.get? place = some c) :
    s.activeCount? tracker = some c.connections.active := by
  simp only [activeCount?, trackerCounter?, ht, hc, Option.bind_eq_bind, Option.bind_some,
    Option.map_some]

theorem waitIdle?_eq (ht : s.trackers.get? tracker = some place)
    (hc : s.counters.get? place = some c) (timeoutMillis : Nat) (clock : Clock) :
    s.waitIdle? tracker timeoutMillis clock = some c.connections.isIdle := by
  simp only [waitIdle?, trackerCounter?, ht, hc, Option.bind_eq_bind, Option.bind_some,
    Option.map_some, Connections.waitIdle_const]

/-- Tracking works as long as the counter may have one more owner. -/
theorem isSome_track_iff (ht : s.trackers.get? tracker = some place)
    (hc : s.counters.get? place = some c) :
    (s.track tracker connection).isSome ↔ c.owners ≤ maxOwners := by
  rw [Option.isSome_iff_exists]
  constructor
  · rintro ⟨s', hs⟩
    obtain ⟨place', d, d', ht', hd, htrack, _⟩ := track_eq_some_iff.mp hs
    obtain rfl : place = place' := Option.some.inj (ht.symm.trans ht')
    obtain rfl : c = d := Option.some.inj (hc.symm.trans hd)
    exact (SharedCounter.share?_eq_some_iff.mp htrack).1
  · intro hfew
    exact ⟨_, track_eq_some_iff.mpr
      ⟨place, c, _, ht, hc, SharedCounter.share?_eq_some_iff.mpr ⟨hfew, rfl⟩, rfl⟩⟩

/-- **A counter counts the guards that are alive.**  After any calls, each tracker
that is there says that as many connections are open as guards of its origin,
made through it or any other clone, are not dropped.  To wait while nothing
happens comes to an end, and tells whether there are none.  One more connection
can be tracked unless its counter has too many owners.  A guard that is not
dropped can be dropped, and its counter is not at zero then.  To replace a guard
is to make the new one and then to drop the old one; in between there is a point
like any other. -/
theorem run_counts_guards {calls : List Call} {s : Tracking} (h : empty.run calls = some s) :
    let l := Ledger.ofCalls calls
    (∀ origin, ∀ tracker ∈ l.trackersOf origin,
        (∃ active, s.activeCount? tracker = some active
          ∧ active.toNat = (l.guardsOf origin).length)
        ∧ (∀ timeoutMillis clock,
          s.waitIdle? tracker timeoutMillis clock = some (l.guardsOf origin).isEmpty)
        ∧ (∀ connection, (s.step (.track tracker connection)).isSome
          ↔ (l.trackersOf origin).length + (l.guardsOf origin).length ≤ maxOwners))
      ∧ (∀ origin, ∀ guard ∈ l.guardsOf origin,
        (s.step (.drop guard)).isSome
        ∧ ∃ c, s.guardCounter? guard = some c ∧ c.connections.active ≠ 0
          ∧ c.connections.active.toNat = (l.guardsOf origin).length)
      ∧ (∀ guard tracker connection s', s.step (.replace guard tracker connection) = some s'
        ↔ ∃ between, empty.run (calls ++ [.track tracker connection]) = some between
          ∧ between.step (.drop guard) = some s') := by
  intro l
  have hl : l.Records s := .run h
  have hs : s.Sound := Sound.empty.run h
  -- The ledger says which counter a tracker or a guard refers to, and soundness that this
  -- counter counts the guards.
  refine ⟨fun origin tracker ht => ?_, fun origin guard hg => ?_, fun guard tracker i s' => ?_⟩
  · obtain ⟨c, ht, hc, hbalanced⟩ := hl.exists_trackerCounter hs ht
    refine ⟨⟨_, activeCount?_eq ht hc, hbalanced.active⟩, fun timeoutMillis clock => ?_, fun i => ?_⟩
    · rw [waitIdle?_eq ht hc, Option.some.injEq, Bool.eq_iff_iff, hbalanced.isIdle_iff,
        List.isEmpty_iff, List.length_eq_zero_iff]
    · rw [← hbalanced.owners]
      exact isSome_track_iff ht hc
  · obtain ⟨g, c, hget, hc, hplace, hbalanced⟩ := hl.exists_guardCounter hs hg
    have hdrop := drop_eq_some_iff.mpr ⟨g, c, hget, hc, rfl⟩
    refine ⟨Option.isSome_iff_exists.mpr ⟨_, hdrop⟩, c, ?_,
      hbalanced.active_ne_zero (List.length_pos_of_mem hg), hbalanced.active⟩
    simp only [guardCounter?, hget, hc, Option.bind_eq_bind, Option.bind_some]
  · -- A run is a function, so the state before the new guard is the one at hand.
    rw [step, replace_eq_some_iff]
    refine exists_congr fun between => and_congr_left fun _ => ?_
    rw [run_concat]
    constructor
    · intro htrack
      exact ⟨s, h, htrack⟩
    · rintro ⟨t, ht, htrack⟩
      obtain rfl : s = t := Option.some.inj (h.symm.trans ht)
      exact htrack

/-- A guard made through a clone takes the place of another one, and the tracker
that was there first is dropped: one guard is left. -/
theorem run_counts_guards_replaced :
    ∃ s, empty.run [.new, .clone 0, .track 0 1, .track 1 2, .replace 0 1 3, .discard 0, .drop 1]
        = some s
      ∧ s.activeCount? 1 = some 1 ∧ s.waitIdle? 1 50 .steady = some false
      ∧ (s.step (.track 1 4)).isSome ∧ (s.step (.drop 2)).isSome := by
  obtain ⟨s, hs⟩ : ∃ s, empty.run
      [.new, .clone 0, .track 0 1, .track 1 2, .replace 0 1 3, .discard 0, .drop 1] = some s :=
    ⟨_, rfl⟩
  obtain ⟨htrackers, hguards, _⟩ := run_counts_guards hs
  obtain ⟨⟨active, hactive, hlength⟩, hwait, htrack⟩ := htrackers 0 1 (by decide)
  obtain rfl : active = 1 := UInt64.toNat_inj.mp hlength
  exact ⟨s, hs, hactive, hwait 50 .steady, (htrack 4).mpr (by decide), (hguards 0 2 (by decide)).1⟩

end Tracking

end Switchyard
