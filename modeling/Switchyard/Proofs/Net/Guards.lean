/-
  Switchyard.Proofs.Net.Guards
  ────────────────────────────
  Guards that are held under identifiers, over whole runs.  Whoever gets a new
  guard under an identifier gives up the one before, so there are as many guards
  as identifiers under which one is held.

      Call, run — what is asked of the holders, and much of it
      Tidy      — kept by every call: the guards held are the guards there are

  Main statements:

      active_run
-/
import Switchyard.Proofs.Net.Tracking

namespace Switchyard

namespace Guards

open Tracking

/-- What is asked of the holders of guards. -/
inductive Call where
  | hold (id : Nat)
  | drop (id : Nat)

def apply (g : Guards) : Call → Guards
  | .hold id => (g.hold id).2
  | .drop id => (g.drop id).2

def run (g : Guards) (calls : List Call) : Guards := calls.foldl apply g

/-- The guards that are held are those that are there, each under one identifier,
and all count in the counter of the tracker. -/
structure Tidy (g : Guards) : Prop where
  sound : g.tracking.Sound
  tracker : g.tracking.trackers.get? 0 = some 0
  held : ∀ id n, g.held.get? id = some n →
    ∃ guard, g.tracking.guards.get? n = some guard ∧ guard.counter = 0
  eq_of_held : ∀ id id' n, g.held.get? id = some n → g.held.get? id' = some n → id = id'
  size_eq : g.held.size = g.tracking.guardsAt 0

theorem Tidy.empty : empty.Tidy :=
  ⟨Sound.empty.new, rfl, nofun, nofun, rfl⟩

variable {g : Guards} {s : Tracking} {id n connection : Nat}

/-- What there is after the tracker has tracked a connection. -/
theorem Tidy.of_track (h : g.Tidy) (hs : g.tracking.track 0 connection = some s) :
    s.Sound ∧ s.trackers = g.tracking.trackers
      ∧ s.guards = g.tracking.guards.add ⟨0, connection⟩
      ∧ s.guardsAt 0 = g.tracking.guardsAt 0 + 1 := by
  refine ⟨h.sound.track hs, ?_⟩
  obtain ⟨place, c, c', ht, _, _, rfl⟩ := track_eq_some_iff.mp hs
  obtain rfl : place = 0 := Option.some.inj (ht.symm.trans h.tracker)
  exact ⟨rfl, rfl, Roster.count_add_of_pos (decide_eq_true rfl)⟩

/-- What there is after a guard was dropped that counts with the tracker. -/
theorem of_drop {t : Tracking} {guard : Guard} (ht : t.Sound) (hn : t.guards.get? n = some guard)
    (hcounter : guard.counter = 0) (hs : t.drop n = some s) :
    s.Sound ∧ s.trackers = t.trackers ∧ s.guards = t.guards.remove n
      ∧ s.guardsAt 0 + 1 = t.guardsAt 0 := by
  refine ⟨ht.drop hs, ?_⟩
  obtain ⟨guard', c, hn', _, rfl⟩ := drop_eq_some_iff.mp hs
  exact ⟨rfl, rfl, Roster.count_remove_of_pos hn (decide_eq_true hcounter)⟩

theorem Tidy.lt_made (h : g.Tidy) (hn : g.held.get? id = some n) : n < g.tracking.guards.made := by
  obtain ⟨_, hguard, _⟩ := h.held id n hn
  exact Roster.lt_made hguard

/-- To hold a new guard is fine if those that others hold stay what they are. -/
theorem Tidy.insert (h : g.Tidy) (hs : s.Sound) (ht : s.trackers = g.tracking.trackers)
    (hnew : ∃ guard, s.guards.get? g.tracking.guards.made = some guard ∧ guard.counter = 0)
    (hother : ∀ id' n, id' ≠ id → g.held.get? id' = some n →
      s.guards.get? n = g.tracking.guards.get? n)
    (hsize : (g.held.insert id g.tracking.guards.made).size = s.guardsAt 0) (next : Nat) :
    Tidy ⟨s, g.held.insert id g.tracking.guards.made, next⟩ where
  sound := hs
  tracker := ht ▸ h.tracker
  held id' n hn := by
    rw [Table.get?_insert] at hn
    split at hn
    · -- The new guard is held by `id`, all others by whom they were.
      obtain rfl := Option.some.inj hn
      exact hnew
    · next hne =>
      rw [hother id' n hne hn]
      exact h.held id' n hn
  eq_of_held id₁ id₂ n h₁ h₂ := by
    rw [Table.get?_insert] at h₁ h₂
    split at h₁ <;> split at h₂
    · next he₁ he₂ => rw [he₁, he₂]
    · -- A guard that was held has a number below that of the new one.
      exact absurd (Option.some.inj h₁) (h.lt_made h₂).ne'
    · exact absurd (Option.some.inj h₂) (h.lt_made h₁).ne'
    · exact h.eq_of_held id₁ id₂ n h₁ h₂
  size_eq := hsize

theorem Tidy.hold (h : g.Tidy) (id : Nat) : (g.hold id).2.Tidy := by
  unfold Guards.hold
  cases hheld : g.held.get? id with
  | none =>
      cases hs : g.tracking.track 0 g.next with
      | none => exact h
      | some s =>
          obtain ⟨hsound, htrackers, hguards, hat⟩ := h.of_track hs
          refine h.insert hsound htrackers ?_ (fun id' n _ hn => ?_) ?_ _
          · exact ⟨⟨0, g.next⟩, by rw [hguards, Roster.get?_add, if_pos rfl], rfl⟩
          · rw [hguards, Roster.get?_add, if_neg (h.lt_made hn).ne]
          · rw [Table.size_insert, Table.contains, hheld, hat, h.size_eq]
            rfl
  -- The new guard comes before the old one goes, so there is a state in between with both.
  | some old =>
      dsimp only
      cases hs : g.tracking.replace old 0 g.next with
      | none => exact h
      | some s =>
          obtain ⟨between, htrack, hdrop⟩ := replace_eq_some_iff.mp hs
          obtain ⟨hsound, htrackers, hguards, hat⟩ := h.of_track htrack
          obtain ⟨guard, hguard, hcounter⟩ := h.held id old hheld
          have hlt := h.lt_made hheld
          have hguard' : between.guards.get? old = some guard := by
            rw [hguards, Roster.get?_add, if_neg hlt.ne, hguard]
          obtain ⟨hsound', htrackers', hguards', hat'⟩ := of_drop hsound hguard' hcounter hdrop
          refine h.insert hsound' (htrackers'.trans htrackers) ?_ (fun id' n hne hn => ?_) ?_ _
          · refine ⟨⟨0, g.next⟩, ?_, rfl⟩
            rw [hguards', Roster.get?_remove, if_neg hlt.ne', hguards, Roster.get?_add, if_pos rfl]
          · -- Two holders hold two guards, so the one that is dropped is no other's.
            have hold : n ≠ old := fun he => hne (h.eq_of_held id' id old (he ▸ hn) hheld)
            rw [hguards', Roster.get?_remove, if_neg hold, hguards, Roster.get?_add,
              if_neg (h.lt_made hn).ne]
          · rw [Table.size_insert, Table.contains, hheld, h.size_eq]
            exact (Nat.add_right_cancel (hat'.trans hat)).symm

theorem Tidy.drop (h : g.Tidy) (id : Nat) : (g.drop id).2.Tidy := by
  unfold Guards.drop
  cases hheld : g.held.get? id with
  | none => exact h
  | some n =>
      rw [Option.bind_eq_bind, Option.bind_some]
      cases hs : g.tracking.drop n with
      | none => exact h
      | some s =>
          obtain ⟨guard, hguard, hcounter⟩ := h.held id n hheld
          obtain ⟨hsound, htrackers, hguards, hat⟩ := of_drop h.sound hguard hcounter hs
          have hsize := Table.size_erase g.held id
          rw [hheld] at hsize
          refine ⟨hsound, htrackers ▸ h.tracker, fun id' n' hn' => ?_, fun id₁ id₂ n' h₁ h₂ => ?_, ?_⟩
          · rw [Table.get?_erase] at hn'
            split at hn'
            · cases hn'
            · next hne =>
              -- Nobody else held the guard that went.
              have hn : n' ≠ n := fun he => hne (h.eq_of_held id' id n (he ▸ hn') hheld)
              rw [hguards, Roster.get?_remove, if_neg hn]
              exact h.held id' n' hn'
          · rw [Table.get?_erase] at h₁ h₂
            split at h₁
            · cases h₁
            · split at h₂
              · cases h₂
              · exact h.eq_of_held id₁ id₂ n' h₁ h₂
          · show (g.held.erase id).size = s.guardsAt 0
            have := h.size_eq
            simp only [Option.toList_some, List.length_singleton] at hsize
            omega

theorem Tidy.run (h : g.Tidy) (calls : List Call) : (g.run calls).Tidy := by
  induction calls generalizing g with
  | nil => exact h
  | cons call calls ih =>
      cases call with
      | hold id => exact ih (h.hold id)
      | drop id => exact ih (h.drop id)

/-- **The counter counts the guards that are held**, whoever held one before
under the same identifier. -/
theorem active_run (calls : List Call) :
    (empty.run calls).connections.active.toNat = (empty.run calls).held.size := by
  have h := Tidy.empty.run calls
  obtain ⟨c, hc⟩ := h.sound.exists_trackerCounter h.tracker
  have hcounter : (empty.run calls).tracking.trackerCounter? 0 = some c := by
    simp only [trackerCounter?, h.tracker, hc, Option.bind_eq_bind, Option.bind_some]
  rw [connections, hcounter, h.size_eq]
  exact (h.sound.balanced 0 c hc).active

end Guards

end Switchyard
