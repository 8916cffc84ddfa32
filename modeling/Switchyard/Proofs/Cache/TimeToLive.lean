/-
  Switchyard.Proofs.Cache.TimeToLive
  ──────────────────────────────────
  What is found under a time to live.  Of a duration its whole seconds are kept,
  and none of them stands for no limit.  So a shorter duration keeps an entry no
  longer than a longer one does, unless it is shorter than a second: then it
  keeps the entry for ever.

  Main statements:

      get_setTtl_eq_some_iff — what is found once a duration is set
      shorter_ttl_iff        — when a shorter one keeps an entry no longer
-/
import Switchyard.Proofs.Cache.Operations

namespace Switchyard

theorem Duration.seconds_le {d d' : Duration} (h : d.nanoseconds ≤ d'.nanoseconds) :
    d.seconds ≤ d'.seconds :=
  Nat.div_le_div_right h

namespace Cache

variable {c : Cache} {d d₁ d₂ : Duration} {k : CacheKey} {now : Nat} {e : Entry}

/-! ## §1. One duration. -/

theorem ttl?_setTtl (c : Cache) (d : Duration) :
    (c.setTtl (some d)).ttl? = if d.seconds = 0 then none else some d.seconds := rfl

/-- **What is found once a duration is set**: what the cache holds, if the
duration has no whole second or the entry is younger than the seconds it has. -/
theorem get_setTtl_eq_some_iff :
    ((c.setTtl (some d)).get k now).1 = some e
      ↔ c.enabled = true ∧ c.entries.get? k = some e
        ∧ (d.seconds = 0 ∨ now - e.createdAt < d.seconds) := by
  rw [get_eq_some_iff, Entry.isExpired_eq_false_iff, ttl?_setTtl]
  show c.enabled = true ∧ c.entries.get? k = some e ∧ _ ↔ _
  by_cases hzero : d.seconds = 0
  · simp [hzero]
  · simp [hzero]

/-! ## §2. Two durations. -/

/-- **A shorter time to live keeps an entry no longer** than a longer one,
exactly if it has a whole second, or the longer one has none either, or the
entry is still younger than the longer one. -/
theorem shorter_ttl_iff (hon : c.enabled = true) (hle : d₁.nanoseconds ≤ d₂.nanoseconds)
    (k : CacheKey) (now : Nat) :
    (∀ e, ((c.setTtl (some d₁)).get k now).1 = some e →
        ((c.setTtl (some d₂)).get k now).1 = some e)
      ↔ (d₁.seconds = 0 →
        d₂.seconds = 0 ∨ ∀ e, c.entries.get? k = some e → now - e.createdAt < d₂.seconds) := by
  constructor
  · intro hkeeps hshort
    by_cases hlong : d₂.seconds = 0
    · exact .inl hlong
    · -- Under the shorter one whatever is held is found.
      refine .inr fun e hheld => ?_
      have hfound : ((c.setTtl (some d₁)).get k now).1 = some e :=
        get_setTtl_eq_some_iff.mpr ⟨hon, hheld, .inl hshort⟩
      have hage := (get_setTtl_eq_some_iff.mp (hkeeps e hfound)).2.2
      exact hage.resolve_left hlong
  · intro hcond e hfound
    obtain ⟨-, hheld, hage⟩ := get_setTtl_eq_some_iff.mp hfound
    refine get_setTtl_eq_some_iff.mpr ⟨hon, hheld, ?_⟩
    -- Found without a limit, or younger than the shorter duration and so than the longer one.
    rcases hage with hshort | hage
    · rcases hcond hshort with hlong | hyoung
      · exact .inl hlong
      · exact .inr (hyoung e hheld)
    · exact .inr (Nat.lt_of_lt_of_le hage (Duration.seconds_le hle))

/-- A cache with one page, made at the time 0. -/
def onePage : Cache :=
  (Cache.new true 0 10 none).put ⟨"page", [], none⟩ ⟨.text (Utf8.encode "hello"), 0⟩ 0

/-- What a second and a half keeps, a minute keeps. -/
theorem onePage_keeps_no_longer :
    onePage.enabled = true
      ∧ (Duration.ofMilliseconds 1500).nanoseconds ≤ (Duration.ofSeconds 60).nanoseconds
      ∧ ∃ e, ((onePage.setTtl (some (.ofMilliseconds 1500))).get ⟨"page", [], none⟩ 0).1 = some e
        ∧ ((onePage.setTtl (some (.ofSeconds 60))).get ⟨"page", [], none⟩ 0).1 = some e := by
  have hle : (Duration.ofMilliseconds 1500).nanoseconds ≤ (Duration.ofSeconds 60).nanoseconds := by
    decide
  have hkeeps := (shorter_ttl_iff (c := onePage) rfl hle ⟨"page", [], none⟩ 0).mpr
    fun hshort => absurd hshort (by decide)
  have hfound : ((onePage.setTtl (some (.ofMilliseconds 1500))).get ⟨"page", [], none⟩ 0).1
      = some ⟨.text (Utf8.encode "hello"), 0⟩ := by decide
  exact ⟨rfl, hle, _, hfound, hkeeps _ hfound⟩

/-- Half a second keeps the page longer than a minute does. -/
theorem onePage_keeps_longer :
    onePage.enabled = true
      ∧ (Duration.ofMilliseconds 500).nanoseconds ≤ (Duration.ofSeconds 60).nanoseconds
      ∧ ∃ e, ((onePage.setTtl (some (.ofMilliseconds 500))).get ⟨"page", [], none⟩ 100).1 = some e
        ∧ ((onePage.setTtl (some (.ofSeconds 60))).get ⟨"page", [], none⟩ 100).1 ≠ some e :=
  ⟨rfl, by decide, ⟨.text (Utf8.encode "hello"), 0⟩, by decide, by decide⟩

end Cache

end Switchyard
