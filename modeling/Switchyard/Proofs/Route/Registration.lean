/-
  Switchyard.Proofs.Route.Registration
  ────────────────────────────────────
  Tables that were made by registration hold no name twice, so a name leads
  back to the one binding that has it.

  Main statements:

      firstRepeat?_eq_none_iff — nothing is found exactly if no name repeats
      Registered.nodup         — kept by every way to make a table
-/
import Mathlib.Data.List.Nodup
import Switchyard.Route.Table

namespace Switchyard.RouteTable

variable {η : Type}

/-! ## §1. Distinct names. -/

theorem firstRepeat?_eq_none_iff {seen names : List String} :
    firstRepeat? seen names = none ↔ names.Nodup ∧ ∀ name ∈ names, name ∉ seen := by
  induction names generalizing seen with
  | nil => simp [firstRepeat?]
  | cons name names ih =>
      by_cases hseen : name ∈ seen
      · simp [firstRepeat?, hseen]
      · -- The rest is searched with the name among those seen.
        rw [firstRepeat?, if_neg hseen, ih, List.nodup_cons]
        constructor
        · rintro ⟨hnodup, hfresh⟩
          refine ⟨⟨fun hm => hfresh name hm List.mem_cons_self, hnodup⟩, fun n hn => ?_⟩
          rcases List.mem_cons.mp hn with rfl | hn
          · exact hseen
          · exact fun hm => hfresh n hn (List.mem_cons_of_mem _ hm)
        · rintro ⟨⟨hnew, hnodup⟩, hfresh⟩
          refine ⟨hnodup, fun n hn hm => ?_⟩
          rcases List.mem_cons.mp hm with rfl | hm
          · exact hnew hn
          · exact hfresh n (List.mem_cons_of_mem _ hn) hm

/-- The tables that can be made: from nothing, by one more binding, or from
a list of bindings at once. -/
inductive Registered : RouteTable η → Prop where
  | empty : Registered .empty
  | register {t t' : RouteTable η} {b : Binding η} (h : Registered t)
      (registered : t.register b = .ok t') : Registered t'
  | ofBindings {t : RouteTable η} {bs : List (Binding η)} (made : ofBindings bs = .ok t) :
      Registered t

/-- **No name stands twice in a table.** -/
theorem Registered.nodup {t : RouteTable η} (h : t.Registered) : t.names.Nodup := by
  induction h with
  | empty => exact List.nodup_nil
  | register _ registered ih =>
      obtain ⟨hnew, rfl⟩ := register_ok_iff.mp registered
      rw [names, List.map_append, List.map_singleton, ← List.concat_eq_append]
      exact (List.nodup_concat _ _).mpr ⟨hnew, ih⟩
  | @ofBindings t bs made =>
      unfold RouteTable.ofBindings at made
      split at made
      · simp at made
      · next hnone =>
          obtain rfl := Except.ok.inj made
          exact (firstRepeat?_eq_none_iff.mp hnone).1

/-- A name leads to one binding. -/
theorem Registered.eq_of_name {t : RouteTable η} (h : t.Registered) {b b' : Binding η}
    (hb : b ∈ t.bindings) (hb' : b' ∈ t.bindings) (hname : b.name = b'.name) : b = b' :=
  List.inj_on_of_nodup_map h.nodup hb hb' hname

/-! ## §2. Resolving. -/

/-- The binding that answers is one of the table. -/
theorem mem_of_resolve? {t : RouteTable η} {method : Method} {path : String} {b : Binding η}
    {params : Params} (h : t.resolve? method path = some (b, params)) : b ∈ t.bindings := by
  obtain ⟨b', hb', heq⟩ := List.exists_of_findSome?_eq_some h
  obtain ⟨_, _, hpair⟩ := Option.map_eq_some_iff.mp heq
  obtain ⟨rfl, rfl⟩ := Prod.mk.inj hpair
  exact hb'

end Switchyard.RouteTable
