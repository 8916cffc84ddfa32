/-
  Switchyard.Proofs.Roster
  ────────────────────────
  How many things of a kind are there, and which.  Who knows of each thing its
  kind when it was made, and the numbers of those that are gone, knows both.

      count      — how many things that are there satisfy a condition
      remaining  — the numbers of the things of a kind that are not gone
      Shows      — a roster on which things stand as they were made, less those
                   that are gone

  Main statements:

      count_add_of_pos, count_remove_of_pos
      Shows.mem_remaining_iff, Shows.count_eq
-/
import Mathlib.Data.List.Basic
import Mathlib.Order.Nat
import Switchyard.Roster

namespace Switchyard

namespace Roster

variable {α : Type}

/-- How many of the things that are there satisfy a condition. -/
def count (r : Roster α) (q : α → Bool) : Nat := r.places.countP fun place => place.any q

variable {r : Roster α} {n : Nat} {a : α} {q : α → Bool}

theorem count_add_of_pos (hq : q a = true) : (r.add a).count q = r.count q + 1 := by
  rw [count, add, List.countP_append, List.countP_singleton, Option.any_some, if_pos hq]
  rfl

theorem count_add_of_neg (hq : q a = false) : (r.add a).count q = r.count q := by
  rw [count, add, List.countP_append, List.countP_singleton, Option.any_some, hq]
  rfl

/-- Where a thing is, its place holds it. -/
theorem getElem_places (h : r.get? n = some a) : ∃ hn : n < r.places.length, r.places[n] = some a :=
  List.getElem?_eq_some_iff.mp (Option.join_eq_some_iff.mp h)

theorem count_pos (h : r.get? n = some a) (hq : q a = true) : 0 < r.count q := by
  obtain ⟨hn, hplace⟩ := getElem_places h
  exact List.countP_pos_iff.mpr ⟨some a, hplace ▸ List.getElem_mem hn, hq⟩

theorem count_remove_of_pos (h : r.get? n = some a) (hq : q a = true) :
    (r.remove n).count q + 1 = r.count q := by
  obtain ⟨hn, hplace⟩ := getElem_places h
  rw [count, remove, List.countP_set hn, hplace, Option.any_some, if_pos hq]
  exact Nat.sub_add_cancel (count_pos h hq)

theorem count_remove_of_neg (h : r.get? n = some a) (hq : q a = false) :
    (r.remove n).count q = r.count q := by
  obtain ⟨hn, hplace⟩ := getElem_places h
  rw [count, remove, List.countP_set hn, hplace, Option.any_some, hq]
  rfl

theorem places_eq (r : Roster α) : r.places = (List.range r.made).map r.get? := by
  apply List.ext_getElem
  · rw [List.length_map, List.length_range]
    rfl
  · intro n h1 h2
    rw [List.getElem_map, List.getElem_range, get?, List.getElem?_eq_getElem h1]
    rfl

theorem count_eq_length (r : Roster α) (q : α → Bool) :
    r.count q = ((List.range r.made).filter fun n => (r.get? n).any q).length := by
  rw [count, places_eq, List.countP_map, List.countP_eq_length_filter]
  rfl

/-- A roster on which stand the things that were made, less those that are
gone; of each it is known what `f` tells. -/
structure Shows {β : Type} (r : Roster α) (f : α → β) (made : List β) (gone : List Nat) : Prop where
  made_eq : r.made = made.length
  get?_eq : ∀ n, (r.get? n).map f = if n ∈ gone then none else made[n]?
  gone_lt : ∀ n ∈ gone, n < r.made

variable {β : Type} {f : α → β} {made : List β} {gone : List Nat}

theorem Shows.empty : (Roster.empty : Roster α).Shows f [] [] :=
  ⟨rfl, fun _ => rfl, nofun⟩

theorem Shows.add (h : r.Shows f made gone) (a : α) : (r.add a).Shows f (made ++ [f a]) gone where
  made_eq := by rw [made_add, List.length_append, h.made_eq, List.length_singleton]
  get?_eq n := by
    rw [get?_add]
    by_cases hn : n = r.made
    · -- This number was not given before, so the thing that had it cannot be gone.
      have hgone : n ∉ gone := fun hgone => (h.gone_lt n hgone).ne hn
      rw [if_pos hn, if_neg hgone, hn, h.made_eq, List.getElem?_concat_length]
      rfl
    · rw [if_neg hn, h.get?_eq n, List.getElem?_append]
      rw [h.made_eq] at hn
      split
      · rfl
      · split
        · rfl
        · rw [List.getElem?_eq_none (by omega),
            List.getElem?_eq_none (by rw [List.length_singleton]; omega)]
  gone_lt n hn := by
    rw [made_add]
    exact Nat.lt_succ_of_lt (h.gone_lt n hn)

theorem Shows.remove (h : r.Shows f made gone) {n : Nat} {a : α} (hn : r.get? n = some a) :
    (r.remove n).Shows f made (gone ++ [n]) where
  made_eq := by rw [made_remove, h.made_eq]
  get?_eq m := by
    rw [get?_remove]
    by_cases hm : m = n
    · rw [if_pos hm, if_pos (by rw [hm]; exact List.mem_append_right _ (List.mem_singleton_self n))]
      rfl
    · rw [if_neg hm, h.get?_eq m]
      simp only [List.mem_append, List.mem_singleton, hm, or_false]
  gone_lt m hm := by
    rw [made_remove]
    rcases List.mem_append.mp hm with hm | hm
    · exact h.gone_lt m hm
    · rw [List.mem_singleton.mp hm]
      exact lt_made hn

/-- The numbers of those things of a kind that are not gone. -/
def remaining [DecidableEq β] (made : List β) (gone : List Nat) (kind : β) : List Nat :=
  (List.range made.length).filter fun n => n ∉ gone ∧ made[n]? = some kind

theorem mem_remaining [DecidableEq β] {kind : β} {n : Nat} :
    n ∈ remaining made gone kind ↔ n ∉ gone ∧ made[n]? = some kind := by
  rw [remaining, List.mem_filter, List.mem_range, decide_eq_true_iff]
  exact and_iff_right_of_imp fun h => (List.getElem?_eq_some_iff.mp h.2).1

theorem Shows.mem_remaining_iff [DecidableEq β] (h : r.Shows f made gone) {kind : β} {n : Nat} :
    n ∈ remaining made gone kind ↔ ∃ a, r.get? n = some a ∧ f a = kind := by
  rw [mem_remaining, ← Option.map_eq_some_iff, h.get?_eq n]
  split
  · next hgone => exact iff_of_false (fun hn => hn.1 hgone) nofun
  · next hgone => exact and_iff_right hgone

theorem Shows.count_eq [DecidableEq β] (h : r.Shows f made gone) (kind : β) :
    r.count (fun a => f a = kind) = (remaining made gone kind).length := by
  rw [count_eq_length, remaining, h.made_eq]
  congr 1
  apply List.filter_congr
  intro n _
  have hany : ((r.get? n).any fun a => decide (f a = kind)) = decide ((r.get? n).map f = some kind) := by
    cases r.get? n with
    | none => rfl
    | some a => simp only [Option.any_some, Option.map_some, Option.some.injEq]
  rw [hany, h.get?_eq n]
  split
  · next hgone => simp only [hgone, not_true_eq_false, false_and, reduceCtorEq]
  · next hgone => simp only [hgone, not_false_eq_true, true_and]

end Roster

end Switchyard
