/-
  Switchyard.Proofs.Cache.Loading
  ───────────────────────────────
  Loading a snapshot beside storing its entries.  Either way live entries are
  put in, one after the other, as long as there is room.  Once the cache is
  full, loading passes over what is left, while storing goes on: it replaces
  what is under a key, and for a new key it drops what has expired.

      putAll     — entries stored one after the other
      lastUnder? — the entry that comes last under a key
      AllLive    — nothing that the cache holds has expired
      Full       — the cache is on and has no room

  Main statements:

      putAll_taken, exists_leftOver — loading is storing until the cache is full
      get?_putAll_of_full, allLive_putAll — what storing does from then on
      load_eq_putAll  — loading is storing where there is room for all
      load_agrees_iff — when the two agree
-/
import Switchyard.Proofs.Cache.Restart
import Switchyard.Proofs.Cache.Room

namespace Switchyard

theorem Table.filter_eq_self {κ ν : Type} [DecidableEq κ] {t : Table κ ν} {keep : κ → ν → Bool}
    (h : ∀ k v, t.get? k = some v → keep k v = true) : t.filter keep = t := by
  have hpairs : t.pairs.filter (fun p => keep p.1 p.2) = t.pairs :=
    List.filter_eq_self.mpr fun p hp => h p.1 p.2 ((t.get?_eq_some_iff p.1 p.2).mpr hp)
  obtain ⟨pairs, distinct⟩ := t
  simpa [filter] using hpairs

namespace Cache

open StoredEntry FileSystem

variable {c d : Cache} {fs : FileSystem} {k : CacheKey} {e : Entry} {now n : Nat}
  {ps : List (CacheKey × Entry)}

/-! ## §1. Storing one after the other. -/

/-- The cache after some entries were stored, one after the other. -/
def putAll (c : Cache) (now : Nat) (ps : List (CacheKey × Entry)) : Cache :=
  ps.foldl (fun c p => c.put p.1 p.2 now) c

theorem putAll_append (c : Cache) (now : Nat) (ps qs : List (CacheKey × Entry)) :
    c.putAll now (ps ++ qs) = (c.putAll now ps).putAll now qs := List.foldl_append

/-- The entry that comes last under a key. -/
def lastUnder? (k : CacheKey) (ps : List (CacheKey × Entry)) : Option Entry := ps.reverse.lookup k

theorem lastUnder?_cons (k k' : CacheKey) (e : Entry) (ps : List (CacheKey × Entry)) :
    lastUnder? k ((k', e) :: ps) = (lastUnder? k ps).or (if k = k' then some e else none) := by
  rw [lastUnder?, List.reverse_cons, List.lookup_append, Table.lookup_cons_if]
  rfl

/-- Some entry comes last under exactly the keys of the list. -/
theorem exists_lastUnder?_iff : (∃ e, lastUnder? k ps = some e) ↔ ∃ p ∈ ps, p.1 = k := by
  constructor
  · rintro ⟨e, h⟩
    obtain ⟨before, after, hps, -⟩ := List.lookup_eq_some_iff.mp h
    exact ⟨(k, e), List.mem_reverse.mp (by simp [hps]), rfl⟩
  · rintro ⟨p, hp, rfl⟩
    refine Option.ne_none_iff_exists'.mp fun h => ?_
    have hne := List.lookup_eq_none_iff.mp h p (List.mem_reverse.mpr hp)
    simp at hne

theorem ttl?_put (c : Cache) (k : CacheKey) (e : Entry) (now : Nat) :
    (c.put k e now).ttl? = c.ttl? := by
  rw [ttl?, ttl?, (put_config c k e now).2.1]

theorem ttl?_putAll (c : Cache) (now : Nat) (ps : List (CacheKey × Entry)) :
    (c.putAll now ps).ttl? = c.ttl? := by
  induction ps generalizing c with
  | nil => rfl
  | cons p ps ih => exact (ih (c.put p.1 p.2 now)).trans (ttl?_put c p.1 p.2 now)

/-- Storing under other keys leaves an entry, or drops it. -/
theorem get?_putAll_of_other (c : Cache) (now : Nat) (h : lastUnder? k ps = none) :
    (c.putAll now ps).entries.get? k = c.entries.get? k
      ∨ (c.putAll now ps).entries.get? k = none := by
  induction ps generalizing c with
  | nil => exact .inl rfl
  | cons p ps ih =>
      obtain ⟨k', e'⟩ := p
      rw [lastUnder?_cons, Option.or_eq_none_iff] at h
      have hne : k ≠ k' := fun hk => by simp [hk] at h
      rcases ih (c.put k' e' now) h.1 with hsame | hnone
      · rcases put_trimsAt hne c e' now with hput | ⟨hput, -⟩
        · exact .inl (hsame.trans hput)
        · exact .inr (hsame.trans hput)
      · exact .inr hnone

/-- Of the entries under one key the last counts, if any was stored. -/
theorem get?_putAll_of_last (hon : c.enabled = true) (now : Nat)
    (h : lastUnder? k ps = some e) :
    (c.putAll now ps).entries.get? k = some e ∨ (c.putAll now ps).entries.get? k = none := by
  induction ps generalizing c with
  | nil => exact absurd h (by simp [lastUnder?])
  | cons p ps ih =>
      obtain ⟨k', e'⟩ := p
      rw [lastUnder?_cons] at h
      cases hrest : lastUnder? k ps with
      | some e'' =>
          rw [hrest, Option.some_or] at h
          exact ih ((put_config c k' e' now).1.trans hon) (hrest.trans h)
      | none =>
          -- This is the last one; it is stored or refused, and others can only drop it.
          rw [hrest, Option.none_or] at h
          split at h
          · next hk =>
            obtain rfl := Option.some.inj h
            subst hk
            have hempty : c.EmptyWhenOff := fun hoff => absurd (hon.symm.trans hoff) (by decide)
            have hput : (c.put k e' now).entries.get? k = some e'
                ∨ (c.put k e' now).entries.get? k = none := by
              by_cases hadmits : c.Admits k now
              · exact .inl (get?_put_of_admits hadmits e')
              · exact .inr (get?_put_of_not_admits hempty hadmits e')
            rcases get?_putAll_of_other (c.put k e' now) now hrest with hsame | hnone
            · exact hput.imp hsame.trans hsame.trans
            · exact .inr hnone
          · exact absurd h (by simp)

/-! ## §2. While there is room. -/

theorem put_of_room (hon : c.enabled = true)
    (hroom : c.entries.size < c.maxEntries ∨ c.entries.contains k = true) (e : Entry) (now : Nat) :
    c.put k e now = { c with entries := c.entries.insert k e } := by
  unfold put
  rw [if_neg (by simp [hon]), if_pos hroom]

/-- **What is loaded is what is stored**, as far as it is loaded. -/
theorem putAll_taken (hon : c.enabled = true) (now : Nat) (ps : List (CacheKey × Entry)) :
    c.putAll now (c.taken now ps) = (c.takeOver now ps).2 := by
  rw [takeOver_eq]
  induction ps generalizing c with
  | nil => rfl
  | cons p ps ih =>
      obtain ⟨k, e⟩ := p
      rw [taken]
      split
      · exact ih hon
      · next hroom =>
        have hlt : c.entries.size < c.maxEntries := by
          have := not_or.mp hroom
          omega
        show (c.put k e now).putAll now _ = _
        rw [put_of_room hon (.inl hlt)]
        exact ih (c := { c with entries := c.entries.insert k e }) hon

theorem taken_of_full (h : c.maxEntries ≤ c.entries.size) : c.taken now ps = [] := by
  induction ps with
  | nil => rfl
  | cons p ps ih => rw [taken, if_pos (.inr h), ih]

/-- **Loading takes a first part of the live entries**, and leaves something
over only once the cache is full. -/
theorem exists_leftOver (now : Nat) (ps : List (CacheKey × Entry)) (c : Cache) :
    ∃ left, liveOnes c.ttl? now ps = c.taken now ps ++ left
      ∧ (left ≠ [] → c.maxEntries ≤ (insertAll c.entries (c.taken now ps)).size) := by
  induction ps generalizing c with
  | nil => exact ⟨[], rfl, fun h => absurd rfl h⟩
  | cons p ps ih =>
      obtain ⟨k, e⟩ := p
      rw [liveOnes, List.filter_cons, taken]
      by_cases hx : e.isExpired c.ttl? now = true
      · rw [if_neg (by simp [hx]), if_pos (.inl hx)]
        exact ih c
      rw [if_pos (by simp [hx])]
      by_cases hfull : c.maxEntries ≤ c.entries.size
      · rw [if_pos (.inr hfull), taken_of_full hfull]
        exact ⟨_, rfl, fun _ => hfull⟩
      · rw [if_neg (not_or.mpr ⟨hx, hfull⟩)]
        obtain ⟨left, hleft, hroom⟩ := ih { c with entries := c.entries.insert k e }
        exact ⟨left, congrArg _ hleft, hroom⟩

/-! ## §3. Once the cache is full. -/

/-- Nothing that the cache holds has expired. -/
def AllLive (c : Cache) (now : Nat) : Prop :=
  ∀ k e, c.entries.get? k = some e → e.isExpired c.ttl? now = false

/-- The cache is on and has no room. -/
structure Full (c : Cache) : Prop where
  on : c.enabled = true
  noRoom : c.maxEntries ≤ c.entries.size

theorem purge_of_allLive (h : c.AllLive now) : c.purge now = c := by
  rw [purge, Table.filter_eq_self fun k e he => by simp [h k e he]]

theorem allLive_purge (c : Cache) (now : Nat) : (c.purge now).AllLive now := by
  intro k e he
  rw [purge, Table.get?_filter, Option.filter_eq_some_iff] at he
  show e.isExpired c.ttl? now = false
  simpa using he.2

theorem AllLive.put (h : c.AllLive now) (k : CacheKey) (he : e.isExpired c.ttl? now = false) :
    (c.put k e now).AllLive now := by
  intro k' e' hheld
  rw [ttl?_put]
  rcases get?_put hheld with ⟨-, rfl⟩ | hold
  · exact he
  · exact h k' e' hold

/-- Which of the entries that come are live does not depend on what was stored. -/
theorem live_put (hlive : ∀ p ∈ ps, p.2.isExpired c.ttl? now = false) (k : CacheKey)
    (e : Entry) : ∀ p ∈ ps, p.2.isExpired (c.put k e now).ttl? now = false := by
  rw [ttl?_put]
  exact hlive

theorem AllLive.putAll (h : c.AllLive now)
    (hlive : ∀ p ∈ ps, p.2.isExpired c.ttl? now = false) : (c.putAll now ps).AllLive now := by
  induction ps generalizing c with
  | nil => exact h
  | cons p ps ih =>
      obtain ⟨hfirst, hrest⟩ := List.forall_mem_cons.mp hlive
      exact ih (h.put p.1 hfirst) (live_put hrest p.1 p.2)

/-- A new key makes a full cache drop what has expired. -/
theorem allLive_put_of_new (hfull : c.Full) (hnew : c.entries.get? k = none)
    (he : e.isExpired c.ttl? now = false) : (c.put k e now).AllLive now := by
  have habsent : c.entries.contains k = false := by simp [Table.contains, hnew]
  have hnow : ¬ (c.entries.size < c.maxEntries ∨ c.entries.contains k = true) := by
    have := hfull.noRoom
    simp only [habsent, Bool.false_eq_true, or_false]
    omega
  unfold Cache.put
  rw [if_neg (by simp [hfull.on]), if_neg hnow]
  show AllLive (if _ then _ else _) now
  split
  · intro k' e' hheld
    have hheld' : ((c.purge now).entries.insert k e).get? k' = some e' := hheld
    rw [Table.get?_insert] at hheld'
    split at hheld'
    · obtain rfl := Option.some.inj hheld'
      exact he
    · exact allLive_purge c now k' e' hheld'
  · exact allLive_purge c now

/-- Without a new key, and also with one if nothing has expired, a full cache
stays full and only replaces. -/
theorem Full.put (hfull : c.Full) (hstay : c.entries.contains k = true ∨ c.AllLive now)
    (e : Entry) :
    (c.put k e now).Full
      ∧ ∀ k', (c.put k e now).entries.get? k'
        = (c.entries.get? k').map fun e' => if k' = k then e else e' := by
  cases hk : c.entries.contains k with
  | true =>
      rw [put_of_room hfull.on (.inr hk)]
      refine ⟨⟨hfull.on, ?_⟩, fun k' => ?_⟩
      · show c.maxEntries ≤ (c.entries.insert k e).size
        rw [Table.size_insert, if_pos hk]
        exact hfull.noRoom
      · show (c.entries.insert k e).get? k' = _
        rw [Table.get?_insert]
        by_cases hkk : k' = k
        · obtain ⟨e', he'⟩ := Option.isSome_iff_exists.mp hk
          simp [hkk, he']
        · simp [hkk]
  | false =>
      -- The new key is refused, and there is nothing to drop.
      have hlive : c.AllLive now := hstay.resolve_left (by simp [hk])
      have hcount : c.maxEntries ≤ c.liveCount now := by
        rw [← size_purge, purge_of_allLive hlive]
        exact hfull.noRoom
      rw [put_of_full hfull.on hk hcount, purge_of_allLive hlive]
      refine ⟨hfull, fun k' => ?_⟩
      by_cases hkk : k' = k
      · have hnone : c.entries.get? k = none := by simpa [Table.contains] using hk
        simp [hkk, hnone]
      · simp [hkk]

/-- **A full cache only replaces**, as long as no new key comes or nothing has
expired. -/
theorem get?_putAll_of_full (hfull : c.Full)
    (hlive : ∀ p ∈ ps, p.2.isExpired c.ttl? now = false)
    (hstay : (∀ p ∈ ps, c.entries.contains p.1 = true) ∨ c.AllLive now) (k : CacheKey) :
    (c.putAll now ps).entries.get? k
      = (c.entries.get? k).map fun e => (lastUnder? k ps).getD e := by
  induction ps generalizing c with
  | nil => simp [putAll, lastUnder?]
  | cons p ps ih =>
      obtain ⟨k', e'⟩ := p
      obtain ⟨he, hrest⟩ := List.forall_mem_cons.mp hlive
      have hfirst : c.entries.contains k' = true ∨ c.AllLive now :=
        hstay.imp_left fun h => h _ List.mem_cons_self
      obtain ⟨hfull', hget⟩ := hfull.put hfirst e'
      -- Storing the first one changes neither which keys are there nor that nothing has expired.
      have hstay' : (∀ p ∈ ps, (c.put k' e' now).entries.contains p.1 = true)
          ∨ (c.put k' e' now).AllLive now := by
        refine hstay.imp (fun h p hp => ?_) fun h => h.put k' he
        rw [Table.contains, hget, Option.isSome_map]
        exact h p (List.mem_cons_of_mem _ hp)
      show ((c.put k' e' now).putAll now ps).entries.get? k = _
      rw [ih hfull' (live_put hrest k' e') hstay', hget, Option.map_map, lastUnder?_cons]
      congr 1
      funext e
      by_cases hk : k = k' <;> cases lastUnder? k ps <;> simp [hk]

/-- **A new key leaves no expired entry** in a full cache. -/
theorem allLive_putAll (hfull : c.Full) (hlive : ∀ p ∈ ps, p.2.isExpired c.ttl? now = false)
    (hnew : ∃ p ∈ ps, c.entries.get? p.1 = none) : (c.putAll now ps).AllLive now := by
  induction ps generalizing c with
  | nil =>
      obtain ⟨p, hp, -⟩ := hnew
      exact absurd hp List.not_mem_nil
  | cons p ps ih =>
      obtain ⟨k', e'⟩ := p
      obtain ⟨he, hrest⟩ := List.forall_mem_cons.mp hlive
      have hlive' := live_put hrest k' e'
      cases hk : c.entries.get? k' with
      | none => exact (allLive_put_of_new hfull hk he).putAll hlive'
      | some old =>
          -- The key is there, so the new one is among the rest, and new still.
          have hpresent : c.entries.contains k' = true := by simp [Table.contains, hk]
          have hstay : c.entries.contains k' = true ∨ c.AllLive now := .inl hpresent
          obtain ⟨hfull', hget⟩ := hfull.put hstay e'
          obtain ⟨q, hq, hqnew⟩ := hnew
          rcases List.mem_cons.mp hq with rfl | hq
          · rw [hk] at hqnew
            exact absurd hqnew (by simp)
          · exact ih hfull' hlive' ⟨q, hq, by rw [hget, hqnew, Option.map_none]⟩

/-- **When a full cache holds the same after storing**: each key that comes has
last the entry that it has already, or it is new and nothing has expired. -/
theorem putAll_same_iff (hfull : c.Full) (hlive : ∀ p ∈ ps, p.2.isExpired c.ttl? now = false) :
    (∀ k, c.entries.get? k = (c.putAll now ps).entries.get? k)
      ↔ ∀ k e, lastUnder? k ps = some e →
        c.entries.get? k = some e ∨ c.entries.get? k = none ∧ c.AllLive now := by
  constructor
  · intro hsame k e hlast
    rcases get?_putAll_of_last hfull.on now hlast with hheld | hnone
    · exact .inl ((hsame k).trans hheld)
    · -- A new key leaves no expired entry behind, and the entries are what they were.
      have hnew : c.entries.get? k = none := (hsame k).trans hnone
      obtain ⟨p, hp, rfl⟩ := exists_lastUnder?_iff.mp ⟨e, hlast⟩
      have hall := allLive_putAll hfull hlive ⟨p, hp, hnew⟩
      refine .inr ⟨hnew, fun k' e' hheld => ?_⟩
      rw [← ttl?_putAll c now ps]
      exact hall k' e' ((hsame k').symm.trans hheld)
  · intro hcond k
    -- Either no key is new, or the condition on a new one says that all entries are live.
    have hstay : (∀ p ∈ ps, c.entries.contains p.1 = true) ∨ c.AllLive now := by
      by_cases hall : ∀ p ∈ ps, c.entries.contains p.1 = true
      · exact .inl hall
      · obtain ⟨p, hp, habsent⟩ := not_forall₂.mp hall
        obtain ⟨e, hlast⟩ := exists_lastUnder?_iff.mpr ⟨p, hp, rfl⟩
        rcases hcond p.1 e hlast with hheld | ⟨-, hlive⟩
        · exact absurd (by simp [Table.contains, hheld]) habsent
        · exact .inr hlive
    rw [get?_putAll_of_full hfull hlive hstay]
    cases hlast : lastUnder? k ps with
    | none => simp
    | some e =>
        rcases hcond k e hlast with hheld | ⟨hnone, -⟩
        · simp [hheld]
        · simp [hnone]

/-! ## §4. Loading and storing. -/

/-- What loading takes over are the valid entries of the snapshot. -/
theorem takeOver_of_load {r : Nat × Cache} (h : c.load fs now = .ok r) :
    c.takeOver now (c.snapshotEntries fs) = r := by
  unfold load at h
  unfold snapshotEntries
  cases hpath : c.snapshotPath? with
  | none =>
      rw [hpath] at h
      exact Except.ok.inj h
  | some path =>
      rw [hpath] at h
      by_cases hskip : (!c.enabled || !fs.pathExists path) = true
      · simp only [hskip, if_true] at h ⊢
        exact Except.ok.inj h
      · simp only [if_neg hskip] at h ⊢
        obtain ⟨content, hread, h⟩ := of_bind_eq_ok h
        obtain ⟨stored, hparse, h⟩ := of_bind_eq_ok h
        simp only [of_mapError_eq_ok hread, of_mapError_eq_ok hparse]
        exact Except.ok.inj h

theorem live_of_mem_liveOnes {ttl? : Option Nat} {p : CacheKey × Entry}
    (h : p ∈ liveOnes ttl? now ps) : p.2.isExpired ttl? now = false := by
  simpa using (List.mem_filter.mp h).2

/-- **Where there is room for all, loading is storing.** -/
theorem load_eq_putAll (hon : c.enabled = true) (hload : c.load fs now = .ok (n, d))
    (hroom : c.entries.size + (c.snapshotEntries fs).length ≤ c.maxEntries) :
    d = c.putAll now (liveOnes c.ttl? now (c.snapshotEntries fs)) := by
  rw [← taken_eq_liveOnes hroom, putAll_taken hon, takeOver_of_load hload]

/-- **When loading is storing.**  A snapshot that is loaded leaves the cache with
the entries that it would have after its live entries were stored in order,
exactly if of the entries that loading passes over the last one under a key is
the one that the cache holds then, or the cache holds none under that key and
nothing that has expired. -/
theorem load_agrees_iff (hon : c.enabled = true) (hload : c.load fs now = .ok (n, d)) :
    let live := liveOnes c.ttl? now (c.snapshotEntries fs)
    (∀ k, d.entries.get? k = (c.putAll now live).entries.get? k)
      ↔ ∀ k e, lastUnder? k (live.drop n) = some e →
        d.entries.get? k = some e ∨ d.entries.get? k = none ∧ d.AllLive now := by
  intro live
  have htake := takeOver_of_load hload
  obtain ⟨left, hleft, hfull⟩ := exists_leftOver now (c.snapshotEntries fs) c
  have hstored := putAll_taken hon now (c.snapshotEntries fs)
  rw [htake] at hstored
  rw [takeOver_eq] at htake
  obtain ⟨rfl, hd⟩ := Prod.mk.inj htake
  -- What is left over is stored in the cache as loading leaves it.
  have hdrop : live.drop (c.taken now (c.snapshotEntries fs)).length = left := by
    rw [show live = _ from hleft, List.drop_left]
  have hput : c.putAll now live = d.putAll now left := by
    rw [show live = _ from hleft, putAll_append, hstored]
  rw [hdrop, hput]
  by_cases hnil : left = []
  · subst hnil
    simp [putAll, lastUnder?]
  · refine putAll_same_iff ⟨?_, ?_⟩ fun p hp => ?_
    · rw [← hd]
      exact hon
    · rw [← hd]
      exact hfull hnil
    · rw [← hd]
      have hmem : p ∈ liveOnes c.ttl? now (c.snapshotEntries fs) := by
        rw [hleft]
        exact List.mem_append_right _ hp
      exact live_of_mem_liveOnes hmem

/-! ## §5. Snapshots for a cache with one place. -/

/-- Pages that were made at the time 1000, with their names and texts. -/
def pages (texts : List (String × String)) : List (CacheKey × Entry) :=
  texts.map fun t => (⟨t.1, [], none⟩, ⟨⟨.ok, .empty, Utf8.encode t.2⟩, 1000⟩)

/-- The snapshot of some pages. -/
def pageSnapshot (texts : List (String × String)) : List StoredEntry :=
  (pages texts).map fun p => ofEntry p.1 p.2

def pageFiles (texts : List (String × String)) : FileSystem :=
  FileSystem.empty.addFile "cache.json" (Utf8.encode (snapshotText (pageSnapshot texts)))

/-- A cache that has a place for one page, which may be taken. -/
def onePlace (texts : List (String × String)) : Cache :=
  (Cache.new true 0 1 (some "cache.json")).putAll 1000 (pages texts)

theorem pageFiles_read (texts : List (String × String)) :
    (pageFiles texts).read "cache.json"
      = .ok (Utf8.encode (snapshotText (pageSnapshot texts))) := by
  rfl

theorem pageSnapshot_parse (texts : List (String × String)) :
    parseSnapshot (Utf8.encode (snapshotText (pageSnapshot texts))) = .ok (pageSnapshot texts) := by
  refine parse_snapshotText fun s hs => ?_
  obtain ⟨p, hp, rfl⟩ := List.mem_map.mp hs
  obtain ⟨t, -, rfl⟩ := List.mem_map.mp hp
  refine inRange_ofEntry _ ?_
  show 1000 < UInt64.size
  decide

theorem pageSnapshot_entries (texts : List (String × String)) :
    (pageSnapshot texts).filterMap toEntry? = pages texts := by
  rw [pageSnapshot, List.filterMap_map, pages, List.filterMap_map, ← List.filterMap_eq_map]
  exact List.filterMap_congr fun t _ => valid_ofEntry _ _

theorem snapshotEntries_pageFiles (hpath : c.snapshotPath? = some "cache.json")
    (hon : c.enabled = true) (texts : List (String × String)) :
    c.snapshotEntries (pageFiles texts) = pages texts := by
  unfold snapshotEntries
  simp only [hpath, hon, pathExists_of_read (pageFiles_read texts), pageFiles_read,
    pageSnapshot_parse]
  exact pageSnapshot_entries texts

theorem load_pageFiles (hpath : c.snapshotPath? = some "cache.json") (hon : c.enabled = true)
    (texts : List (String × String)) (now : Nat) :
    c.load (pageFiles texts) now = .ok (c.takeOver now (pages texts)) := by
  rw [load_of_parse hpath hon (pageFiles_read texts) (pageSnapshot_parse texts),
    pageSnapshot_entries]

/-- Of two pages the second is passed over, and would be refused. -/
theorem onePlace_agrees :
    ∃ n d, (onePlace []).load (pageFiles [("home", "hello"), ("about", "us")]) 2000 = .ok (n, d)
      ∧ ∀ k, d.entries.get? k
        = ((onePlace []).putAll 2000 (pages [("home", "hello"), ("about", "us")])).entries.get? k := by
  have hload := load_pageFiles (c := onePlace []) rfl rfl [("home", "hello"), ("about", "us")] 2000
  refine ⟨_, _, hload, ?_⟩
  have hagrees := load_agrees_iff rfl hload
  rw [snapshotEntries_pageFiles rfl rfl] at hagrees
  refine hagrees.mpr fun k e hlast => .inr ⟨?_, fun _ _ _ => rfl⟩
  obtain ⟨p, hp, rfl⟩ := exists_lastUnder?_iff.mp ⟨e, hlast⟩
  obtain rfl := List.mem_singleton.mp (show p ∈ pages [("about", "us")] from hp)
  rfl

/-- A page that is held is replaced by storing, but not by loading. -/
theorem onePlace_keeps_old :
    let c := onePlace [("home", "old")]
    let fs := pageFiles [("home", "new")]
    c.enabled = true ∧ c.entries.size ≤ c.maxEntries
      ∧ ∃ n d, c.load fs 2000 = .ok (n, d)
        ∧ ¬ ∀ k, d.entries.get? k
          = (c.putAll 2000 (liveOnes c.ttl? 2000 (c.snapshotEntries fs))).entries.get? k := by
  intro c fs
  refine ⟨rfl, by decide, _, _, load_pageFiles rfl rfl _ 2000, fun hsame => ?_⟩
  rw [snapshotEntries_pageFiles rfl rfl] at hsame
  have hhome := hsame ⟨"home", [], none⟩
  revert hhome
  decide +kernel

end Cache

end Switchyard
