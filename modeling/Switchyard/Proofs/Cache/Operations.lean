/-
  Switchyard.Proofs.Cache.Operations
  ──────────────────────────────────
  What each operation of the cache can do, said once.  Looking up and making
  room drop expired entries only (`Trims`); storing puts one entry in, or
  leaves the cache trimmed; the changes from outside take entries out.

  Main statements:

      get_cases, put_cases  — all that looking up and storing can do
      get?_put              — an entry found after storing is the new one or old
      put_keeps             — storing drops no live entry under another key
      put_trimsAt           — all that it can do under another key
      get?_change           — a change from outside removes what it names
      EmptyWhenOff          — kept by every operation: a cache that is off is empty
-/
import Switchyard.Config.Basic

namespace Switchyard

/-! ## §1. Live and expired entries. -/

namespace Entry

/-- An entry is live as long as its age is below the time to live. -/
theorem isExpired_eq_false_iff {e : Entry} {ttl? : Option Nat} {now : Nat} :
    e.isExpired ttl? now = false ↔ ∀ ttl, ttl? = some ttl → now - e.createdAt < ttl := by
  cases ttl? with
  | none => simp [isExpired]
  | some ttl => simp [isExpired]

/-- What is expired stays so while the clock goes on. -/
theorem isExpired_mono {e : Entry} {ttl? : Option Nat} {now later : Nat} (h : now ≤ later)
    (he : e.isExpired ttl? now = true) : e.isExpired ttl? later = true := by
  cases ttl? with
  | none => simp [isExpired] at he
  | some ttl =>
      simp only [isExpired, decide_eq_true_eq] at he ⊢
      omega

end Entry

namespace Table

variable {κ ν : Type}

theorem get?_of_size_eq_zero [DecidableEq κ] {t : Table κ ν} (h : t.size = 0) (k : κ) :
    t.get? k = none := by
  rw [get?, List.length_eq_zero_iff.mp h]
  rfl

theorem size_filter_le (t : Table κ ν) (keep : κ → ν → Bool) : (t.filter keep).size ≤ t.size :=
  List.length_filter_le _ _

theorem size_erase_le [DecidableEq κ] (t : Table κ ν) (k : κ) : (t.erase k).size ≤ t.size :=
  size_filter_le t _

/-- Replacing a value adds no entry, and a new key adds one. -/
theorem size_insert_le [DecidableEq κ] (t : Table κ ν) (k : κ) (v : ν) {n : Nat}
    (hle : t.size ≤ n) (h : t.size < n ∨ t.contains k = true) : (t.insert k v).size ≤ n := by
  rw [size_insert]
  rcases h with h | h
  · split <;> omega
  · rw [if_pos h]
    exact hle

end Table

namespace Cache

/-! ## §2. Dropping expired entries. -/

/-- `d` is what is left of `c` after some entries that are expired at `now`
were dropped. -/
structure Trims (c d : Cache) (now : Nat) : Prop where
  enabled : d.enabled = c.enabled
  ttlSeconds : d.ttlSeconds = c.ttlSeconds
  maxEntries : d.maxEntries = c.maxEntries
  size_le : d.entries.size ≤ c.entries.size
  within : ∀ k e, d.entries.get? k = some e → c.entries.get? k = some e
  live : ∀ k e, c.entries.get? k = some e →
    d.entries.get? k = some e ∨ e.isExpired c.ttl? now = true

theorem Trims.of_entries_eq {c d : Cache} {now : Nat} (hon : d.enabled = c.enabled)
    (httl : d.ttlSeconds = c.ttlSeconds) (hmax : d.maxEntries = c.maxEntries)
    (h : d.entries = c.entries) : c.Trims d now where
  enabled := hon
  ttlSeconds := httl
  maxEntries := hmax
  size_le := Nat.le_of_eq (congrArg Table.size h)
  within := fun k e he => by rw [← h]; exact he
  live := fun k e he => Or.inl (by rw [h]; exact he)

/-- Under one key, trimming changes nothing or drops an expired entry. -/
theorem Trims.get?_cases {c d : Cache} {now : Nat} (h : c.Trims d now) (k : CacheKey) :
    d.entries.get? k = c.entries.get? k
      ∨ (d.entries.get? k = none
        ∧ ∃ e, c.entries.get? k = some e ∧ e.isExpired c.ttl? now = true) := by
  cases hd : d.entries.get? k with
  | some e => exact Or.inl (h.within k e hd).symm
  | none =>
      cases hc : c.entries.get? k with
      | none => exact Or.inl rfl
      | some e =>
          rcases h.live k e hc with hl | hx
          · rw [hd] at hl
            simp at hl
          · exact Or.inr ⟨rfl, e, rfl, hx⟩

/-- From `c` to `d` nothing changed under the key, or an entry went that was
expired at `now`. -/
def TrimsAt (c d : Cache) (k : CacheKey) (now : Nat) : Prop :=
  d.entries.get? k = c.entries.get? k
    ∨ (d.entries.get? k = none ∧ ∃ e, c.entries.get? k = some e ∧ e.isExpired c.ttl? now = true)

theorem purge_trims (c : Cache) (now : Nat) : c.Trims (c.purge now) now where
  enabled := rfl
  ttlSeconds := rfl
  maxEntries := rfl
  size_le := Table.size_filter_le _ _
  within := fun k e he => by
    rw [purge, Table.get?_filter, Option.filter_eq_some_iff] at he
    exact he.1
  live := fun k e he => by
    cases hx : e.isExpired c.ttl? now with
    | true => exact Or.inr rfl
    | false =>
        left
        rw [purge, Table.get?_filter, Option.filter_eq_some_iff]
        exact ⟨he, by simp [hx]⟩

/-! ## §3. Looking up. -/

/-- **All that looking up can do.** -/
theorem get_cases (c : Cache) (k : CacheKey) (now : Nat) :
    (c.enabled = false ∧ c.get k now = (none, c))
      ∨ (c.enabled = true ∧ c.entries.get? k = none
        ∧ c.get k now = (none, { c with misses := c.misses + 1 }))
      ∨ (∃ e, c.enabled = true ∧ c.entries.get? k = some e ∧ e.isExpired c.ttl? now = true
        ∧ c.get k now = (none, { c with entries := c.entries.erase k, misses := c.misses + 1 }))
      ∨ (∃ e, c.enabled = true ∧ c.entries.get? k = some e ∧ e.isExpired c.ttl? now = false
        ∧ c.get k now = (some e, { c with hits := c.hits + 1 })) := by
  unfold get
  -- The switch, the entry and its age decide, in this order.
  cases hon : c.enabled with
  | false => exact Or.inl ⟨rfl, by simp⟩
  | true =>
      right
      cases hk : c.entries.get? k with
      | none => exact Or.inl ⟨rfl, rfl, by simp⟩
      | some e =>
          right
          cases hx : e.isExpired c.ttl? now with
          | true => exact Or.inl ⟨e, rfl, rfl, hx, by simp [hx]⟩
          | false => exact Or.inr ⟨e, rfl, rfl, hx, by simp [hx]⟩

/-- An entry is found exactly if the cache is on, holds it, and it is live. -/
theorem get_eq_some_iff {c : Cache} {k : CacheKey} {now : Nat} {e : Entry} :
    (c.get k now).1 = some e
      ↔ c.enabled = true ∧ c.entries.get? k = some e ∧ e.isExpired c.ttl? now = false := by
  rcases get_cases c k now with ⟨hon, h⟩ | ⟨_, hk, h⟩ | ⟨e', _, hk, hx, h⟩ | ⟨e', hon, hk, hx, h⟩
  · simp [h, hon]
  · simp [h, hk]
  · rw [h, hk]
    constructor
    · intro hn
      simp at hn
    · rintro ⟨_, he, hlive⟩
      obtain rfl := Option.some.inj he
      rw [hx] at hlive
      simp at hlive
  · rw [h, hk]
    constructor
    · intro he
      obtain rfl := Option.some.inj he
      exact ⟨hon, rfl, hx⟩
    · exact fun he => he.2.1

/-- A cache that is off finds nothing and stays as it is. -/
theorem get_of_off {c : Cache} (hoff : c.enabled = false) (k : CacheKey) (now : Nat) :
    c.get k now = (none, c) := by
  unfold get
  exact if_pos (by simp [hoff])

theorem get_trims (c : Cache) (k : CacheKey) (now : Nat) : c.Trims (c.get k now).2 now := by
  -- Only an expired entry is taken out; in the other cases at most a counter moves.
  rcases get_cases c k now with ⟨_, h⟩ | ⟨_, _, h⟩ | ⟨e, _, hk, hx, h⟩ | ⟨e, _, _, _, h⟩
  · rw [h]
    exact .of_entries_eq rfl rfl rfl rfl
  · rw [h]
    exact .of_entries_eq rfl rfl rfl rfl
  · rw [h]
    refine ⟨rfl, rfl, rfl, Table.size_erase_le _ _, ?_, ?_⟩
    · intro k' e' he
      have he' : (c.entries.erase k).get? k' = some e' := he
      rw [Table.get?_erase] at he'
      by_cases hkk : k' = k
      · simp [hkk] at he'
      · rwa [if_neg hkk] at he'
    · intro k' e' he
      show (c.entries.erase k).get? k' = some e' ∨ _
      rw [Table.get?_erase]
      by_cases hkk : k' = k
      · -- The erased entry is the expired one.
        subst hkk
        obtain rfl := Option.some.inj (hk.symm.trans he)
        exact Or.inr hx
      · rw [if_neg hkk]
        exact Or.inl he
  · rw [h]
    exact .of_entries_eq rfl rfl rfl rfl

/-- After a key was looked up in vain the cache holds nothing under it. -/
theorem get?_get_of_none {c : Cache} {k : CacheKey} {now : Nat} (hon : c.enabled = true)
    (h : (c.get k now).1 = none) : (c.get k now).2.entries.get? k = none := by
  rcases get_cases c k now with ⟨hoff, _⟩ | ⟨_, hk, hg⟩ | ⟨e, _, _, _, hg⟩ | ⟨e, _, _, _, hg⟩
  · rw [hoff] at hon
    simp at hon
  · rw [hg]
    exact hk
  · rw [hg]
    show (c.entries.erase k).get? k = none
    rw [Table.get?_erase, if_pos rfl]
  · rw [hg] at h
    simp at h

/-! ## §4. Storing. -/

/-- **All that storing can do**: nothing where the cache is off, putting the
entry in where there is room for it, at once or after a purge, and a mere
purge where there is none. -/
theorem put_cases (c : Cache) (k : CacheKey) (e : Entry) (now : Nat) :
    (c.enabled = false ∧ c.put k e now = c)
      ∨ (∃ d, c.Trims d now ∧ c.enabled = true ∧ d.hits = c.hits ∧ d.misses = c.misses
        ∧ (d.entries.size < d.maxEntries ∨ d.entries.contains k = true)
        ∧ c.put k e now = { d with entries := d.entries.insert k e })
      ∨ (c.enabled = true ∧ c.entries.get? k = none
        ∧ c.maxEntries ≤ (c.purge now).entries.size ∧ c.put k e now = c.purge now) := by
  unfold put
  cases hon : c.enabled with
  | false => exact Or.inl ⟨rfl, by simp⟩
  | true =>
      right
      -- Where there is room at once, nothing is trimmed: `d` is the cache itself.
      by_cases hroom : c.entries.size < c.maxEntries ∨ c.entries.contains k = true
      · left
        exact ⟨c, .of_entries_eq rfl rfl rfl rfl, rfl, rfl, rfl, hroom, by simp [hroom, hon]⟩
      · rw [if_neg (by simp), if_neg hroom]
        by_cases hroom' : (c.purge now).entries.size < (c.purge now).maxEntries
        · left
          exact ⟨c.purge now, purge_trims c now, rfl, rfl, rfl, Or.inl hroom',
            if_pos hroom'⟩
        · right
          refine ⟨rfl, ?_, Nat.not_lt.mp hroom', if_neg hroom'⟩
          have hk : ¬ c.entries.contains k = true := fun h => hroom (Or.inr h)
          simpa [Table.contains] using hk

/-- An entry that the cache holds after storing is the new one, or was there. -/
theorem get?_put {c : Cache} {k k' : CacheKey} {e e' : Entry} {now : Nat}
    (h : (c.put k e now).entries.get? k' = some e') :
    (k' = k ∧ e' = e) ∨ c.entries.get? k' = some e' := by
  rcases put_cases c k e now with ⟨_, hp⟩ | ⟨d, htrim, _, _, _, _, hp⟩ | ⟨_, _, _, hp⟩
  · rw [hp] at h
    exact Or.inr h
  · rw [hp] at h
    have h' : (d.entries.insert k e).get? k' = some e' := h
    rw [Table.get?_insert] at h'
    by_cases hk : k' = k
    · rw [if_pos hk] at h'
      exact Or.inl ⟨hk, (Option.some.inj h').symm⟩
    · rw [if_neg hk] at h'
      exact Or.inr (htrim.within k' e' h')
  · rw [hp] at h
    exact Or.inr ((purge_trims c now).within k' e' h)

/-- Storing drops no live entry under another key, and replaces the one under
its own. -/
theorem put_keeps {c : Cache} {k k' : CacheKey} {e e' : Entry} {now : Nat}
    (h : c.entries.get? k' = some e') :
    (c.put k e now).entries.get? k' = some e' ∨ e'.isExpired c.ttl? now = true
      ∨ (k' = k ∧ (c.put k e now).entries.get? k = some e) := by
  rcases put_cases c k e now with ⟨_, hp⟩ | ⟨d, htrim, _, _, _, _, hp⟩ | ⟨_, _, _, hp⟩
  · rw [hp]
    exact Or.inl h
  · rw [hp]
    show (d.entries.insert k e).get? k' = some e' ∨ _ ∨ _ ∧ (d.entries.insert k e).get? k = some e
    rw [Table.get?_insert, Table.get?_insert]
    by_cases hk : k' = k
    · exact Or.inr (Or.inr ⟨hk, by simp⟩)
    · -- Another key's entry went only if the trimming before took it.
      rw [if_neg hk]
      rcases htrim.live k' e' h with hd | hx
      · exact Or.inl hd
      · exact Or.inr (Or.inl hx)
  · rw [hp]
    rcases (purge_trims c now).live k' e' h with hd | hx
    · exact Or.inl hd
    · exact Or.inr (Or.inl hx)

/-- **Storing under one key trims the others at most.** -/
theorem put_trimsAt {k k' : CacheKey} (hne : k' ≠ k) (c : Cache) (e : Entry) (now : Nat) :
    c.TrimsAt (c.put k e now) k' now := by
  rcases put_cases c k e now with ⟨_, hp⟩ | ⟨d, htrim, _, _, _, _, hp⟩ | ⟨_, _, _, hp⟩
  · rw [hp]
    exact .inl rfl
  · have hsame : ({ d with entries := d.entries.insert k e } : Cache).entries.get? k'
        = d.entries.get? k' := by
      show (d.entries.insert k e).get? k' = _
      rw [Table.get?_insert, if_neg hne]
    rw [hp, TrimsAt, hsame]
    exact htrim.get?_cases k'
  · rw [hp]
    exact (purge_trims c now).get?_cases k'

/-- Under its own key the entry is stored, or nothing changes. -/
theorem get?_put_self (c : Cache) (k : CacheKey) (e : Entry) (now : Nat) :
    (c.put k e now).entries.get? k = some e
      ∨ (c.put k e now).entries.get? k = c.entries.get? k := by
  rcases put_cases c k e now with ⟨_, hp⟩ | ⟨d, _, _, _, _, _, hp⟩ | ⟨_, habsent, _, hp⟩
  · exact .inr (by rw [hp])
  · left
    rw [hp]
    show (d.entries.insert k e).get? k = some e
    rw [Table.get?_insert, if_pos rfl]
  · -- There was no entry to purge.
    right
    rw [hp]
    rcases (purge_trims c now).get?_cases k with hsame | ⟨_, e', hheld, _⟩
    · exact hsame
    · rw [habsent] at hheld
      exact absurd hheld (by simp)

/-- Storing leaves the switch, the limits and the counters as they are. -/
theorem put_config (c : Cache) (k : CacheKey) (e : Entry) (now : Nat) :
    (c.put k e now).enabled = c.enabled ∧ (c.put k e now).ttlSeconds = c.ttlSeconds
      ∧ (c.put k e now).maxEntries = c.maxEntries ∧ (c.put k e now).hits = c.hits
      ∧ (c.put k e now).misses = c.misses := by
  rcases put_cases c k e now with ⟨_, hp⟩ | ⟨d, htrim, _, hh, hm, _, hp⟩ | ⟨_, _, _, hp⟩
  · rw [hp]
    exact ⟨rfl, rfl, rfl, rfl, rfl⟩
  · rw [hp]
    exact ⟨htrim.enabled, htrim.ttlSeconds, htrim.maxEntries, hh, hm⟩
  · rw [hp]
    exact ⟨rfl, rfl, rfl, rfl, rfl⟩

/-- Storing never fills the cache beyond its limit. -/
theorem put_size_le {c : Cache} (k : CacheKey) (e : Entry) (now : Nat)
    (h : c.entries.size ≤ c.maxEntries) : (c.put k e now).entries.size ≤ c.maxEntries := by
  rcases put_cases c k e now with ⟨_, hp⟩ | ⟨d, htrim, _, _, _, hroom, hp⟩ | ⟨_, _, _, hp⟩
  · rw [hp]
    exact h
  · rw [hp]
    show (d.entries.insert k e).size ≤ c.maxEntries
    rw [htrim.maxEntries] at hroom
    have hd : d.entries.size ≤ c.entries.size := htrim.size_le
    exact Table.size_insert_le _ _ _ (by omega) hroom
  · rw [hp]
    have hd : (c.purge now).entries.size ≤ c.entries.size := (purge_trims c now).size_le
    omega

/-! ## §5. Changes from outside. -/

/-- A change of a cache apart from looking up and storing: by an admin, or by
a new configuration. -/
inductive Change where
  | invalidate (k : CacheKey)
  | invalidateBinding (binding : String)
  | clear
  | setEnabled (enabled : Bool)
  | setTtl (ttl? : Option Duration)
  deriving DecidableEq, Repr

def change (c : Cache) : Change → Cache
  | .invalidate k => (c.invalidate k).2
  | .invalidateBinding binding => (c.invalidateBinding binding).2
  | .clear => c.clear
  | .setEnabled enabled => c.setEnabled enabled
  | .setTtl ttl? => c.setTtl ttl?

/-- Whose entries are taken out. -/
inductive Removal where
  | key (k : CacheKey)
  | binding (name : String)
  | all
  deriving DecidableEq, Repr

def Removal.concerns : Removal → CacheKey → Bool
  | .key k, k' => k' = k
  | .binding name, k' => k'.binding = name
  | .all, _ => true

/-- What a change takes out of a cache that is on or off.  Switching off a
cache that is on empties it. -/
def Change.removal? (on : Bool) : Change → Option Removal
  | .invalidate k => some (.key k)
  | .invalidateBinding binding => some (.binding binding)
  | .clear => some .all
  | .setEnabled enabled => if on && !enabled then some .all else none
  | .setTtl _ => none

/-- **A change takes out what it names**, and leaves the rest. -/
theorem get?_change (c : Cache) (ch : Change) (k : CacheKey) :
    (c.change ch).entries.get? k
      = if (ch.removal? c.enabled).any (·.concerns k) then none else c.entries.get? k := by
  cases ch with
  | invalidate k' =>
      show (c.entries.erase k').get? k = _
      simp [Table.get?_erase, Change.removal?, Removal.concerns]
  | invalidateBinding binding =>
      show (c.entries.filter fun k _ => k.binding ≠ binding).get? k = _
      rw [Table.get?_filter]
      by_cases hb : k.binding = binding <;> cases c.entries.get? k <;>
        simp [Change.removal?, Removal.concerns, hb]
  | clear => rfl
  | setEnabled enabled =>
      cases hon : c.enabled <;> cases enabled <;>
        simp [change, setEnabled, clear, Change.removal?, Removal.concerns, hon]
  | setTtl ttl? => rfl

theorem change_within {c : Cache} {ch : Change} {k : CacheKey} {e : Entry}
    (h : (c.change ch).entries.get? k = some e) : c.entries.get? k = some e := by
  rw [get?_change] at h
  by_cases hr : (ch.removal? c.enabled).any (·.concerns k) = true
  · rw [if_pos hr] at h
    simp at h
  · rwa [if_neg hr] at h

theorem change_size_le (c : Cache) (ch : Change) :
    (c.change ch).entries.size ≤ c.entries.size := by
  cases ch with
  | invalidate k => exact Table.size_erase_le _ _
  | invalidateBinding binding => exact Table.size_filter_le _ _
  | clear => exact Nat.zero_le _
  | setEnabled enabled =>
      show (c.setEnabled enabled).entries.size ≤ _
      unfold setEnabled
      split
      · exact Nat.zero_le _
      · exact Nat.le_refl _
  | setTtl ttl? => exact Nat.le_refl _

/-- A change leaves the limit and the counters as they are. -/
theorem change_fixed (c : Cache) (ch : Change) :
    (c.change ch).maxEntries = c.maxEntries ∧ (c.change ch).hits = c.hits
      ∧ (c.change ch).misses = c.misses := by
  cases ch with
  | setEnabled enabled =>
      show (c.setEnabled enabled).maxEntries = _ ∧ (c.setEnabled enabled).hits = _
        ∧ (c.setEnabled enabled).misses = _
      unfold setEnabled
      split <;> exact ⟨rfl, rfl, rfl⟩
  | _ => exact ⟨rfl, rfl, rfl⟩

/-! ## §6. A cache that is off. -/

/-- A cache that is off holds nothing. -/
def EmptyWhenOff (c : Cache) : Prop := c.enabled = false → c.entries.size = 0

/-- A new cache holds nothing. -/
theorem get?_ofConfig (config : CacheConfig) (k : CacheKey) :
    (ofConfig config).entries.get? k = none := Table.get?_empty k

theorem EmptyWhenOff.get?_eq_none {c : Cache} (h : c.EmptyWhenOff) (hoff : c.enabled = false)
    (k : CacheKey) : c.entries.get? k = none :=
  Table.get?_of_size_eq_zero (h hoff) k

theorem EmptyWhenOff.trims {c d : Cache} {now : Nat} (h : c.EmptyWhenOff)
    (htrim : c.Trims d now) : d.EmptyWhenOff := by
  intro hoff
  rw [htrim.enabled] at hoff
  have hempty : c.entries.size = 0 := h hoff
  have hle : d.entries.size ≤ c.entries.size := htrim.size_le
  omega

theorem EmptyWhenOff.put {c : Cache} (h : c.EmptyWhenOff) (k : CacheKey) (e : Entry)
    (now : Nat) : (c.put k e now).EmptyWhenOff := by
  intro hoff
  rw [(put_config c k e now).1] at hoff
  rcases put_cases c k e now with ⟨_, hp⟩ | ⟨d, _, hon, _⟩ | ⟨hon, _⟩
  · rw [hp]
    exact h hoff
  · rw [hoff] at hon
    simp at hon
  · rw [hoff] at hon
    simp at hon

theorem EmptyWhenOff.change {c : Cache} (h : c.EmptyWhenOff) (ch : Change) :
    (c.change ch).EmptyWhenOff := by
  cases ch with
  | setEnabled enabled =>
      show (c.setEnabled enabled).EmptyWhenOff
      intro hoff
      have henabled : enabled = false := hoff
      unfold setEnabled
      -- Switching off clears; a cache that was off before was empty already.
      cases hon : c.enabled with
      | true => simp [henabled, clear, Table.empty, Table.size]
      | false => simpa [henabled] using h hon
  | _ =>
      -- The other changes leave the switch alone and add nothing.
      intro hoff
      have hempty : c.entries.size = 0 := h hoff
      have hle := change_size_le c
      exact Nat.le_zero.mp (hempty ▸ hle _)

end Cache

end Switchyard
