/-
  Switchyard.Roster
  ─────────────────
  Numbered things that come and go.  Each gets the next number when it is made;
  what a roster says is `get?`, and each operation is described by what it does
  to `get?`.

  Main statements:

      get?_add, get?_remove
-/

namespace Switchyard

/-- Things that were made one after the other.  A thing has its place in that
order as its number; the number of one that is gone is not given again. -/
structure Roster (α : Type) where
  places : List (Option α)
  deriving DecidableEq, Repr, Inhabited

namespace Roster

variable {α : Type}

def empty : Roster α := ⟨[]⟩

/-- How many things were made, and so the number of the next one. -/
def made (r : Roster α) : Nat := r.places.length

/-- The thing of a number, if it is there. -/
def get? (r : Roster α) (n : Nat) : Option α := r.places[n]?.join

/-- The roster with one thing more. -/
def add (r : Roster α) (a : α) : Roster α := ⟨r.places ++ [some a]⟩

/-- The roster after the thing of a number has gone. -/
def remove (r : Roster α) (n : Nat) : Roster α := ⟨r.places.set n none⟩

@[simp] theorem made_empty : (empty : Roster α).made = 0 := rfl

@[simp] theorem made_add (r : Roster α) (a : α) : (r.add a).made = r.made + 1 :=
  List.length_append

@[simp] theorem made_remove (r : Roster α) (n : Nat) : (r.remove n).made = r.made :=
  List.length_set

@[simp] theorem get?_empty (n : Nat) : (empty : Roster α).get? n = none := rfl

theorem get?_of_made_le {r : Roster α} {n : Nat} (h : r.made ≤ n) : r.get? n = none := by
  rw [get?, List.getElem?_eq_none h]
  rfl

theorem lt_made {r : Roster α} {n : Nat} {a : α} (h : r.get? n = some a) : n < r.made := by
  apply Nat.lt_of_not_le
  intro hn
  rw [get?_of_made_le hn] at h
  exact nomatch h

theorem get?_add (r : Roster α) (a : α) (n : Nat) :
    (r.add a).get? n = if n = r.made then some a else r.get? n := by
  by_cases hn : n = r.made
  · subst hn
    rw [if_pos rfl, get?, add, made, List.getElem?_concat_length]
    rfl
  · rw [if_neg hn, get?, get?, add, List.getElem?_append]
    split
    · rfl
    · next hlt =>
      have h1 : r.places.length ≠ n := fun h => hn h.symm
      rw [List.getElem?_eq_none (by simp only [List.length_singleton]; omega),
        List.getElem?_eq_none (by omega)]

theorem get?_remove (r : Roster α) (m n : Nat) :
    (r.remove m).get? n = if n = m then none else r.get? n := by
  rw [get?, get?, remove, List.getElem?_set]
  by_cases hn : n = m
  · subst hn
    rw [if_pos rfl, if_pos rfl]
    split <;> rfl
  · rw [if_neg hn, if_neg fun h => hn h.symm]

end Roster

end Switchyard
