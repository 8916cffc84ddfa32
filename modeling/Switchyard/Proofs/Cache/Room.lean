/-
  Switchyard.Proofs.Cache.Room
  ────────────────────────────
  Room for an entry.  Storing looks at the size of the cache, at the key, purges
  the cache if it has to, and looks at its size again.  What comes of it depends on
  two things only: whether the key is there, and how many of the entries are live.

      liveCount — how many entries are live
      Admits    — the cache is on and has room for an entry under a key

  Main statements:

      put_of_admits     — an entry that is admitted is put in
      put_of_not_admits — one that is refused drops expired entries at most
-/
import Switchyard.Proofs.Cache.Operations

namespace Switchyard.Cache

/-! ## §1. Live entries. -/

/-- How many entries are live under the time to live in force. -/
def liveCount (c : Cache) (now : Nat) : Nat :=
  c.entries.pairs.countP fun p => !p.2.isExpired c.ttl? now

theorem liveCount_le_size (c : Cache) (now : Nat) : c.liveCount now ≤ c.entries.size :=
  List.countP_le_length

/-- What a purge leaves are the live entries. -/
theorem size_purge (c : Cache) (now : Nat) : (c.purge now).entries.size = c.liveCount now :=
  List.countP_eq_length_filter.symm

/-! ## §2. The two ends of storing. -/

/-- The cache is on, and the key is there or not all places are taken by live
entries. -/
def Admits (c : Cache) (k : CacheKey) (now : Nat) : Prop :=
  c.enabled = true ∧ (c.entries.contains k = true ∨ c.liveCount now < c.maxEntries)

instance (c : Cache) (k : CacheKey) (now : Nat) : Decidable (c.Admits k now) :=
  inferInstanceAs (Decidable (_ ∧ _))

/-- **With room for it an entry is put in**, after a purge if need be. -/
theorem put_of_admits {c : Cache} {k : CacheKey} {now : Nat} (h : c.Admits k now) (e : Entry) :
    ∃ d, c.Trims d now ∧ c.put k e now = { d with entries := d.entries.insert k e } := by
  obtain ⟨hon, hroom⟩ := h
  rcases put_cases c k e now with
    ⟨hoff, _⟩ | ⟨d, htrim, _, _, _, _, hput⟩ | ⟨_, habsent, hfull, _⟩
  · rw [hoff] at hon
    exact absurd hon (by decide)
  · exact ⟨d, htrim, hput⟩
  · -- A purge frees the places that live entries do not take, so one was free.
    rw [size_purge] at hfull
    rcases hroom with hpresent | hlive
    · rw [Table.contains, habsent] at hpresent
      exact absurd hpresent (by decide)
    · omega

/-- **A cache full of other live entries is purged at most.** -/
theorem put_of_full {c : Cache} {k : CacheKey} {now : Nat} (hon : c.enabled = true)
    (habsent : c.entries.contains k = false) (hfull : c.maxEntries ≤ c.liveCount now)
    (e : Entry) : c.put k e now = c.purge now := by
  have hsize : c.liveCount now ≤ c.entries.size := liveCount_le_size c now
  have hnow : ¬ (c.entries.size < c.maxEntries ∨ c.entries.contains k = true) := by
    rw [habsent]
    simp only [Bool.false_eq_true, or_false]
    omega
  have hpurged : ¬ (c.purge now).entries.size < (c.purge now).maxEntries := by
    rw [size_purge]
    show ¬ c.liveCount now < c.maxEntries
    omega
  unfold put
  rw [if_neg (by simp [hon]), if_neg hnow]
  exact if_neg hpurged

theorem put_of_off {c : Cache} (hoff : c.enabled = false) (k : CacheKey) (e : Entry)
    (now : Nat) : c.put k e now = c := by
  unfold put
  exact if_pos (by simp [hoff])

/-- **What is refused leaves the cache as it is, or purged.** -/
theorem put_of_not_admits {c : Cache} {k : CacheKey} {now : Nat} (h : ¬ c.Admits k now)
    (e : Entry) : c.Trims (c.put k e now) now := by
  cases hon : c.enabled with
  | false =>
      rw [put_of_off hon]
      exact .of_entries_eq rfl rfl rfl rfl
  | true =>
      have habsent : c.entries.contains k = false :=
        Bool.eq_false_iff.mpr fun hk => h ⟨hon, .inl hk⟩
      have hfull : c.maxEntries ≤ c.liveCount now :=
        Nat.not_lt.mp fun hroom => h ⟨hon, .inr hroom⟩
      rw [put_of_full hon habsent hfull]
      exact purge_trims c now

/-- Nothing is under a key to which the cache does not admit an entry. -/
theorem get?_of_not_admits {c : Cache} {k : CacheKey} {now : Nat} (hempty : c.EmptyWhenOff)
    (h : ¬ c.Admits k now) : c.entries.get? k = none := by
  cases hon : c.enabled with
  | false => exact hempty.get?_eq_none hon k
  | true =>
      have habsent : ¬ c.entries.contains k = true := fun hk => h ⟨hon, .inl hk⟩
      simpa [Table.contains] using habsent

/-- What is refused is not there afterwards. -/
theorem get?_put_of_not_admits {c : Cache} {k : CacheKey} {now : Nat} (hempty : c.EmptyWhenOff)
    (h : ¬ c.Admits k now) (e : Entry) : (c.put k e now).entries.get? k = none := by
  have hnone : c.entries.get? k = none := get?_of_not_admits hempty h
  -- There was nothing under the key that could have been dropped.
  rcases (put_of_not_admits h e).get?_cases k with hsame | ⟨hgone, _⟩
  · exact hsame.trans hnone
  · exact hgone

/-- What is admitted is there afterwards. -/
theorem get?_put_of_admits {c : Cache} {k : CacheKey} {now : Nat} (h : c.Admits k now)
    (e : Entry) : (c.put k e now).entries.get? k = some e := by
  obtain ⟨d, _, hput⟩ := put_of_admits h e
  rw [hput]
  show (d.entries.insert k e).get? k = some e
  rw [Table.get?_insert, if_pos rfl]

end Switchyard.Cache
