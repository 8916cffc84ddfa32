/-
  Switchyard.Proofs.Cache.CanonicalQuery
  ──────────────────────────────────────
  What a cache key keeps of a query: its items, but not their order.

  Main statements:

      canonicalQuery_perm — equal canonical forms come from the same items
      new_inj             — equal keys come from one binding name, the same
                            captures and the same items
-/
import Switchyard.Cache.Key
import Switchyard.Proofs.Text.Pieces

namespace Switchyard

/-! ## §1. The items of a query. -/

namespace Query

/-- The items of a query that may be absent. -/
def itemsOf (query? : Option String) : List String := (query?.map items).getD []

/-- An item is a non-empty text without an ampersand. -/
theorem mem_items {query item : String} (h : item ∈ items query) :
    item ≠ "" ∧ '&' ∉ item.toList := by
  simp only [items, Text.split, List.mem_filter, List.mem_map, ne_eq,
    decide_eq_true_eq] at h
  obtain ⟨⟨p, hp, rfl⟩, hne⟩ := h
  refine ⟨hne, ?_⟩
  rw [String.toList_ofList]
  exact Text.not_mem_of_mem_pieces hp

end Query

/-! ## §2. Canonical queries and keys. -/

namespace CacheKey

open Query

/-- The items of a query in the order of its canonical form. -/
def sortedItems (query : String) : List String := (items query).mergeSort fun a b => a ≤ b

theorem sortedItems_perm (query : String) : (sortedItems query).Perm (items query) :=
  List.mergeSort_perm _ _

theorem canonicalQuery_eq (query : String) :
    canonicalQuery query
      = if sortedItems query = [] then none else some ("&".intercalate (sortedItems query)) := by
  rw [canonicalQuery, ← sortedItems]
  cases sortedItems query with
  | nil => rfl
  | cons item items => simp

/-- The canonical form tells the sorted items. -/
theorem sortedItems_injective {q q' : String} (h : canonicalQuery q = canonicalQuery q') :
    sortedItems q = sortedItems q' := by
  rw [canonicalQuery_eq, canonicalQuery_eq] at h
  by_cases hq : sortedItems q = [] <;> by_cases hq' : sortedItems q' = []
  · rw [hq, hq']
  · simp [hq, hq'] at h
  · simp [hq, hq'] at h
  · simp only [hq, hq', if_false, Option.some.injEq] at h
    have htext := congrArg String.toList h
    rw [String.toList_intercalate, String.toList_intercalate] at htext
    -- Items have no ampersand, so the joined text tells where each one ends.
    have hfree : ∀ query, ∀ p ∈ (sortedItems query).map String.toList, '&' ∉ p := by
      intro query p hp
      obtain ⟨item, hitem, rfl⟩ := List.mem_map.mp hp
      exact (mem_items ((sortedItems_perm query).mem_iff.mp hitem)).2
    have hlists := Text.joinWith_injective (by simpa using hq) (by simpa using hq')
      (hfree q) (hfree q') htext
    exact (List.map_inj_right fun _ _ => String.toList_inj.mp).mp hlists

/-- **Queries with one canonical form have the same items**, in some order. -/
theorem canonicalQuery_perm {q? q'? : Option String}
    (h : q?.bind canonicalQuery = q'?.bind canonicalQuery) :
    (itemsOf q?).Perm (itemsOf q'?) := by
  -- A query without items and no query at all have one canonical form.
  have hnil : ∀ q, canonicalQuery q = none → items q = [] := by
    intro q hq
    rw [canonicalQuery_eq] at hq
    by_cases hs : sortedItems q = []
    · have hperm := sortedItems_perm q
      rw [hs] at hperm
      exact hperm.symm.eq_nil
    · simp [hs] at hq
  cases q? with
  | none =>
      cases q'? with
      | none => exact List.Perm.refl _
      | some q' =>
          rw [show itemsOf (some q') = [] from hnil q' h.symm]
          exact List.Perm.refl _
  | some q =>
      cases q'? with
      | none =>
          rw [show itemsOf (some q) = [] from hnil q h]
          exact List.Perm.refl _
      | some q' =>
          have hs := sortedItems_injective h
          exact (sortedItems_perm q).symm.trans (hs ▸ sortedItems_perm q')

/-- **What two requests with one key share**: the name of the binding, the
captures, and the items of the query. -/
theorem new_inj {b b' : String} {p p' : Params} {q? q'? : Option String}
    (h : new b p q? = new b' p' q'?) :
    b = b' ∧ p = p' ∧ (itemsOf q?).Perm (itemsOf q'?) := by
  simp only [new, CacheKey.mk.injEq] at h
  exact ⟨h.1, h.2.1, canonicalQuery_perm h.2.2⟩

end CacheKey

end Switchyard
