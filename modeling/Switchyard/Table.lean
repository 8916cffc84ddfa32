/-
  Switchyard.Table
  ────────────────
  Finite tables: at most one value for a key.  What a table says is `get?`,
  and each operation is described by what it does to `get?`.

  Main statements:

      get?_insert, get?_erase, get?_filter
      size_insert   — a new key adds one entry, a present key none
-/

namespace Switchyard

/-- Pairs of keys and values in which no key stands twice. -/
structure Table (κ ν : Type) where
  pairs : List (κ × ν)
  distinct : (pairs.map Prod.fst).Nodup

namespace Table

variable {κ ν : Type}

def empty : Table κ ν := ⟨[], List.nodup_nil⟩

instance : Inhabited (Table κ ν) := ⟨empty⟩

def size (t : Table κ ν) : Nat := t.pairs.length

/-- The entries that satisfy a condition. -/
def filter (t : Table κ ν) (keep : κ → ν → Bool) : Table κ ν :=
  ⟨t.pairs.filter fun p => keep p.1 p.2, t.distinct.sublist (List.filter_sublist.map _)⟩

variable [DecidableEq κ]

/-- The value of a key. -/
def get? (t : Table κ ν) (k : κ) : Option ν := t.pairs.lookup k

/-- Whether a key has a value. -/
def contains (t : Table κ ν) (k : κ) : Bool := (t.get? k).isSome

/-- The table without a key. -/
def erase (t : Table κ ν) (k : κ) : Table κ ν := t.filter fun k' _ => k' ≠ k

/-- The table with `v` as the value of `k`. -/
def insert (t : Table κ ν) (k : κ) (v : ν) : Table κ ν :=
  ⟨(k, v) :: (t.erase k).pairs, by
    refine List.nodup_cons.2 ⟨?_, (t.erase k).distinct⟩
    simp [erase, filter]⟩

/-! ## Lookups. -/

theorem lookup_cons_if (k k' : κ) (v : ν) (ps : List (κ × ν)) :
    ((k', v) :: ps).lookup k = if k = k' then some v else ps.lookup k := by
  by_cases h : k = k'
  · simp [h]
  · have hb : (k == k') = false := by simpa using h
    simp [List.lookup_cons, hb, h]

theorem get?_eq_some_iff (t : Table κ ν) (k : κ) (v : ν) :
    t.get? k = some v ↔ (k, v) ∈ t.pairs := by
  obtain ⟨ps, h⟩ := t
  simp only [get?]
  induction ps with
  | nil => simp
  | cons p ps ih =>
    obtain ⟨k', v'⟩ := p
    simp only [List.map_cons, List.nodup_cons] at h
    rw [lookup_cons_if, List.mem_cons, Prod.mk.injEq]
    by_cases hk : k = k'
    · subst hk
      have : ∀ w, (k, w) ∉ ps := fun w hw => h.1 (List.mem_map.2 ⟨_, hw, rfl⟩)
      simp [this, eq_comm]
    · simp [hk, ih h.2]

@[simp] theorem get?_empty (k : κ) : (empty : Table κ ν).get? k = none := rfl

theorem get?_filter (t : Table κ ν) (keep : κ → ν → Bool) (k : κ) :
    (t.filter keep).get? k = (t.get? k).filter (keep k) := by
  apply Option.ext
  intro v
  rw [get?_eq_some_iff, Option.filter_eq_some_iff, get?_eq_some_iff]
  simp [filter]

theorem get?_erase (t : Table κ ν) (k k' : κ) :
    (t.erase k).get? k' = if k' = k then none else t.get? k' := by
  rw [erase, get?_filter]
  by_cases h : k' = k <;> cases t.get? k' <;> simp [h, Option.filter]

theorem get?_insert (t : Table κ ν) (k k' : κ) (v : ν) :
    (t.insert k v).get? k' = if k' = k then some v else t.get? k' := by
  rw [get?, insert, lookup_cons_if]
  by_cases h : k' = k
  · simp [h]
  · have h1 := get?_erase t k k'
    simpa only [get?, h, if_false] using h1

theorem length_filter_ne (k : κ) (ps : List (κ × ν)) (h : (ps.map Prod.fst).Nodup) :
    (ps.filter fun p => decide (p.1 ≠ k)).length + (ps.lookup k).toList.length = ps.length := by
  induction ps with
  | nil => simp
  | cons p ps ih =>
    obtain ⟨k', v'⟩ := p
    simp only [List.map_cons, List.nodup_cons] at h
    have ih := ih h.2
    rw [lookup_cons_if]
    by_cases hk : k = k'
    · subst hk
      have hnone : ps.lookup k = none := by
        rw [List.lookup_eq_none_iff]
        intro q hq
        have : q.1 ≠ k := fun he => h.1 (he ▸ List.mem_map_of_mem hq)
        simpa using fun he => this he.symm
      rw [hnone] at ih
      simpa using ih
    · have hk' : k' ≠ k := fun he => hk he.symm
      simp only [hk, if_false, List.length_cons]
      rw [List.filter_cons_of_pos (by simpa using hk'), List.length_cons]
      omega

/-- Erasing takes away one entry if the key is there. -/
theorem size_erase (t : Table κ ν) (k : κ) :
    (t.erase k).size + (t.get? k).toList.length = t.size :=
  length_filter_ne k t.pairs t.distinct

theorem size_insert (t : Table κ ν) (k : κ) (v : ν) :
    (t.insert k v).size = if t.contains k then t.size else t.size + 1 := by
  have h := size_erase t k
  have hs : (t.insert k v).size = (t.erase k).size + 1 := rfl
  cases hg : t.get? k with
  | none =>
    rw [hg] at h
    simp only [Option.toList_none, List.length_nil] at h
    simp [contains, hg, hs, ← h]
  | some w =>
    rw [hg] at h
    simp only [Option.toList_some, List.length_singleton] at h
    simp [contains, hg, hs, h]

end Table

end Switchyard
