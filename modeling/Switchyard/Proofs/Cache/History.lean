/-
  Switchyard.Proofs.Cache.History
  ───────────────────────────────
  The cache over whole runs.  A ledger keeps, beside the cache, what was stored
  and removed so far and how often the cache was asked while it was on.  What
  stands under a key is the entry of the last mark that concerns it, and the
  cache answers with what stands, as long as it is live.

      keyStep           — all that an operation can do under one key
      Ledger.Sound      — kept by every step: the cache holds what stands
      Ledger.Complete   — kept while the clock goes on and the time to live
                          stays: what stands is held, or has expired

  Main statements:

      run_answers_what_stands
      put_stores_iff — when an entry is stored
-/
import Switchyard.Cache.Snapshot
import Switchyard.Proofs.Cache.Room

namespace Switchyard.Cache

open StoredEntry

/-! ## §1. Operations. -/

/-- One call of the cache, with what the clock shows and what the files hold
where it asks for them. -/
inductive Operation where
  | put (k : CacheKey) (e : Entry) (now : Nat)
  | get (k : CacheKey) (now : Nat)
  | change (ch : Change)
  | load (files : FileSystem) (now : Nat)
  | save (files : FileSystem)

namespace Operation

/-- What the clock shows, if the operation looks at it. -/
def reading? : Operation → Option Nat
  | .put _ _ now | .get _ now | .load _ now => some now
  | .change _ | .save _ => none

def isGet : Operation → Bool
  | .get .. => true
  | _ => false

/-- Whether the operation leaves the time to live at `ttl` seconds. -/
def keepsTtl (ttl : Nat) : Operation → Prop
  | .change (.setTtl ttl?) => (ttl?.map Duration.seconds).getD 0 = ttl
  | _ => True

end Operation

/-- The cache after an operation.  A snapshot that cannot be loaded leaves it
as it was, and saving reads it only. -/
def apply (c : Cache) : Operation → Cache
  | .put k e now => c.put k e now
  | .get k now => (c.get k now).2
  | .change ch => c.change ch
  | .load files now =>
      match c.load files now with
      | .ok (_, loaded) => loaded
      | .error _ => c
  | .save _ => c

/-! ## §2. What loading takes over. -/

/-- The valid entries of the cache's snapshot, none if it cannot be read. -/
def snapshotEntries (c : Cache) (files : FileSystem) : List (CacheKey × Entry) :=
  match c.snapshotPath? with
  | none => []
  | some path =>
      if !c.enabled || !files.pathExists path then []
      else
        match files.read path with
        | .error _ => []
        | .ok content =>
            match parseSnapshot content with
            | .error _ => []
            | .ok stored => stored.filterMap toEntry?

/-- A cache that is off reads no snapshot. -/
theorem snapshotEntries_of_off {c : Cache} (hoff : c.enabled = false) (files : FileSystem) :
    c.snapshotEntries files = [] := by
  unfold snapshotEntries
  cases c.snapshotPath? <;> simp [hoff]

theorem apply_load (c : Cache) (files : FileSystem) (now : Nat) :
    c.apply (.load files now) = (c.takeOver now (c.snapshotEntries files)).2 := by
  show (match c.load files now with
    | .ok (_, loaded) => loaded
    | .error _ => c) = _
  unfold load snapshotEntries
  cases c.snapshotPath? with
  | none => rfl
  | some path =>
      by_cases hskip : (!c.enabled || !files.pathExists path) = true
      · simp only [hskip, if_true]
        rfl
      · simp only [hskip]
        cases files.read path with
        | error e => rfl
        | ok content =>
            have hread : (Except.ok content).mapError LoadError.file = .ok content := rfl
            cases hp : parseSnapshot content with
            | error e =>
                have hparse : (Except.error e : Except _ (List StoredEntry)).mapError
                  LoadError.content = .error (.content e) := rfl
                simp [bind, Except.bind, hread, hp, hparse, takeOver]
            | ok stored =>
                have hparse : (Except.ok stored).mapError LoadError.content = .ok stored := rfl
                simp [bind, Except.bind, hread, hp, hparse, pure, Except.pure]

/-- The entries of a list that are taken over, in order. -/
def taken (c : Cache) (now : Nat) : List (CacheKey × Entry) → List (CacheKey × Entry)
  | [] => []
  | (k, e) :: rest =>
      if e.isExpired c.ttl? now ∨ c.maxEntries ≤ c.entries.size then c.taken now rest
      else (k, e) :: { c with entries := c.entries.insert k e }.taken now rest

/-- A table with some entries put in, one after the other. -/
def insertAll (t : Table CacheKey Entry) (entries : List (CacheKey × Entry)) :
    Table CacheKey Entry :=
  entries.foldl (fun t p => t.insert p.1 p.2) t

/-- **Taking over puts in what is taken**, tells how much it is, and touches
nothing else. -/
theorem takeOver_eq (now : Nat) (entries : List (CacheKey × Entry)) (c : Cache) :
    c.takeOver now entries
      = ((c.taken now entries).length,
        { c with entries := insertAll c.entries (c.taken now entries) }) := by
  induction entries generalizing c with
  | nil => rfl
  | cons p rest ih =>
      obtain ⟨k, e⟩ := p
      rw [takeOver, taken]
      split
      · exact ih c
      · rw [ih]
        rfl

theorem takeOver_size_le (now : Nat) (entries : List (CacheKey × Entry)) {c : Cache}
    (h : c.entries.size ≤ c.maxEntries) :
    (c.takeOver now entries).2.entries.size ≤ c.maxEntries := by
  induction entries generalizing c with
  | nil => exact h
  | cons p rest ih =>
      obtain ⟨k, e⟩ := p
      rw [takeOver]
      split
      · exact ih h
      · next hroom =>
          have hlt : c.entries.size < c.maxEntries := by
            have := not_or.mp hroom
            omega
          exact ih (Table.size_insert_le _ _ _ h (Or.inl hlt))

/-! ## §3. Marks: what was stored and removed. -/

inductive Mark where
  | stored (k : CacheKey) (e : Entry)
  | removed (r : Removal)

namespace Mark

/-- Whether the mark says anything about a key. -/
def concerns : Mark → CacheKey → Bool
  | .stored k _, k' => k' = k
  | .removed r, k => r.concerns k

def entry? : Mark → Option Entry
  | .stored _ e => some e
  | .removed _ => none

end Mark

/-- **What stands under a key** by some marks, the newest first: the entry last
stored under it, unless a removal that concerns the key came later. -/
def standing (k : CacheKey) (marks : List Mark) : Option Entry :=
  (marks.find? (·.concerns k)).bind Mark.entry?

theorem standing_cons (k : CacheKey) (m : Mark) (marks : List Mark) :
    standing k (m :: marks) = if m.concerns k then m.entry? else standing k marks := by
  rw [standing, List.find?_cons]
  cases m.concerns k <;> rfl

theorem standing_stored (k k' : CacheKey) (e : Entry) (marks : List Mark) :
    standing k (.stored k' e :: marks) = if k = k' then some e else standing k marks := by
  rw [standing_cons]
  simp [Mark.concerns, Mark.entry?]

/-- The marks that an operation leaves, in order.  `put` stores an entry if the
cache is on and has room for it, whatever becomes of the others. -/
def marksOf (c : Cache) : Operation → List Mark
  | .put k e now => if c.Admits k now then [.stored k e] else []
  | .get .. | .save _ => []
  | .change ch => (ch.removal? c.enabled).toList.map .removed
  | .load files now =>
      (c.taken now (c.snapshotEntries files)).map fun p => .stored p.1 p.2

/-! ## §4. The ledger. -/

/-- A cache with what was done to it. -/
structure Ledger where
  cache : Cache
  /-- What was stored and removed, the newest first. -/
  marks : List Mark
  /-- How often the cache was asked while it was on. -/
  asked : Nat

namespace Ledger

/-- The ledger of a new cache. -/
def start (config : CacheConfig) : Ledger := ⟨Cache.ofConfig config, [], 0⟩

def step (l : Ledger) (op : Operation) : Ledger :=
  { cache := l.cache.apply op
    marks := (l.cache.marksOf op).reverse ++ l.marks
    asked := l.asked + if l.cache.enabled && op.isGet then 1 else 0 }

def run (l : Ledger) (ops : List Operation) : Ledger := ops.foldl step l

end Ledger

/-! ## §5. One step under one key. -/

/-- What a step from `l` to `l'` can do under a key. -/
inductive KeyStep (l l' : Ledger) (reading? : Option Nat) (k : CacheKey) : Prop where
  /-- An entry was stored. -/
  | stored (e : Entry) (held : l'.cache.entries.get? k = some e)
      (marked : standing k l'.marks = some e)
  /-- What was there was removed. -/
  | removed (held : l'.cache.entries.get? k = none) (marked : standing k l'.marks = none)
  /-- Nothing happened. -/
  | kept (held : l'.cache.entries.get? k = l.cache.entries.get? k)
      (marked : standing k l'.marks = standing k l.marks)
  /-- An expired entry was dropped. -/
  | expired (now : Nat) (e : Entry) (read : reading? = some now)
      (was : l.cache.entries.get? k = some e) (dead : e.isExpired l.cache.ttl? now = true)
      (held : l'.cache.entries.get? k = none)
      (marked : standing k l'.marks = standing k l.marks)

/-- A step that trims the cache and leaves no mark of the key. -/
theorem KeyStep.of_trims {l l' : Ledger} {d : Cache} {now : Nat} {k : CacheKey}
    (htrim : l.cache.Trims d now) (held : l'.cache.entries.get? k = d.entries.get? k)
    (marked : standing k l'.marks = standing k l.marks) : KeyStep l l' (some now) k := by
  rcases htrim.get?_cases k with hd | ⟨hd, e, hc, hx⟩
  · exact .kept (held.trans hd) marked
  · exact .expired now e rfl hc hx (held.trans hd) marked

theorem keyStep_put (l : Ledger) (k' : CacheKey) (e : Entry) (now : Nat) (k : CacheKey) :
    KeyStep l (l.step (.put k' e now)) (some now) k := by
  have hcache : (l.step (.put k' e now)).cache = l.cache.put k' e now := rfl
  by_cases hadmits : l.cache.Admits k' now
  · have hmarks : (l.step (.put k' e now)).marks = .stored k' e :: l.marks := by
      simp [Ledger.step, marksOf, hadmits]
    have hmark := standing_stored k k' e l.marks
    rw [← hmarks] at hmark
    -- The entry goes into what a purge may have left.
    obtain ⟨d, htrim, hput⟩ := put_of_admits hadmits e
    have hheld : (l.step (.put k' e now)).cache.entries.get? k
        = if k = k' then some e else d.entries.get? k := by
      rw [hcache, hput]
      exact Table.get?_insert _ _ _ _
    by_cases hk : k = k'
    · rw [if_pos hk] at hheld hmark
      exact .stored e hheld hmark
    · rw [if_neg hk] at hheld hmark
      exact .of_trims htrim hheld hmark
  · have hmarks : (l.step (.put k' e now)).marks = l.marks := by
      simp [Ledger.step, marksOf, hadmits]
    exact .of_trims (put_of_not_admits hadmits e) rfl (by rw [hmarks])

theorem keyStep_change (l : Ledger) (ch : Change) (k : CacheKey) :
    KeyStep l (l.step (.change ch)) none k := by
  have hheld : (l.step (.change ch)).cache.entries.get? k
      = if (ch.removal? l.cache.enabled).any (·.concerns k) then none
        else l.cache.entries.get? k := get?_change l.cache ch k
  have hmarks : (l.step (.change ch)).marks
      = ((ch.removal? l.cache.enabled).toList.map Mark.removed).reverse ++ l.marks := rfl
  cases hr : ch.removal? l.cache.enabled with
  | none =>
      rw [hr] at hheld hmarks
      exact .kept hheld (by rw [hmarks]; rfl)
  | some r =>
      rw [hr] at hheld hmarks
      have hmark : standing k (l.step (.change ch)).marks
          = if r.concerns k then none else standing k l.marks := by
        rw [hmarks]
        exact standing_cons k (.removed r) l.marks
      rw [Option.any_some] at hheld
      cases hc : r.concerns k with
      | true => exact .removed (by simpa [hc] using hheld) (by simpa [hc] using hmark)
      | false => exact .kept (by simpa [hc] using hheld) (by simpa [hc] using hmark)

/-- Putting entries in and marking them as stored goes hand in hand. -/
theorem get?_insertAll (k : CacheKey) (entries : List (CacheKey × Entry))
    (t : Table CacheKey Entry) (marks : List Mark) :
    (∃ e, (insertAll t entries).get? k = some e
      ∧ standing k ((entries.map fun p => .stored p.1 p.2).reverse ++ marks) = some e)
    ∨ ((insertAll t entries).get? k = t.get? k
      ∧ standing k ((entries.map fun p => .stored p.1 p.2).reverse ++ marks)
        = standing k marks) := by
  induction entries generalizing t marks with
  | nil => exact Or.inr ⟨rfl, rfl⟩
  | cons p entries ih =>
      obtain ⟨k', e⟩ := p
      rw [show insertAll t ((k', e) :: entries) = insertAll (t.insert k' e) entries from rfl,
        List.map_cons, List.reverse_cons, List.append_assoc, List.singleton_append]
      rcases ih (t.insert k' e) (.stored k' e :: marks) with h | ⟨hheld, hmark⟩
      · exact Or.inl h
      · -- No later entry concerns the key, so this one decides.
        rw [hheld, hmark, Table.get?_insert, standing_stored]
        by_cases hk : k = k'
        · simp only [hk, if_true]
          exact Or.inl ⟨e, rfl, rfl⟩
        · simp only [hk, if_false]
          exact Or.inr ⟨trivial, trivial⟩

theorem keyStep_load (l : Ledger) (files : FileSystem) (now : Nat) (k : CacheKey) :
    KeyStep l (l.step (.load files now)) (some now) k := by
  have hcache : (l.step (.load files now)).cache.entries
      = insertAll l.cache.entries (l.cache.taken now (l.cache.snapshotEntries files)) := by
    rw [show (l.step (.load files now)).cache = l.cache.apply (.load files now) from rfl,
      apply_load, takeOver_eq]
  rcases get?_insertAll k (l.cache.taken now (l.cache.snapshotEntries files))
    l.cache.entries l.marks with ⟨e, hheld, hmark⟩ | ⟨hheld, hmark⟩
  · exact .stored e (by rw [hcache]; exact hheld) hmark
  · exact .kept (by rw [hcache]; exact hheld) hmark

/-- **All that an operation can do under one key.** -/
theorem keyStep (l : Ledger) (op : Operation) (k : CacheKey) :
    KeyStep l (l.step op) op.reading? k := by
  cases op with
  | put k' e now => exact keyStep_put l k' e now k
  -- Looking up leaves no mark, whichever key it asks for.
  | get k' now => exact .of_trims (get_trims l.cache k' now) rfl rfl
  | change ch => exact keyStep_change l ch k
  | load files now => exact keyStep_load l files now k
  | save files => exact .kept rfl rfl

/-! ## §6. What every step keeps. -/

/-- An operation never changes the limit. -/
theorem apply_maxEntries (c : Cache) (op : Operation) :
    (c.apply op).maxEntries = c.maxEntries := by
  cases op with
  | put k e now => exact (put_config c k e now).2.2.1
  | get k now => exact (get_trims c k now).maxEntries
  | change ch => exact (change_fixed c ch).1
  | load files now =>
      rw [apply_load, takeOver_eq]
  | save files => rfl

/-- Only a new time to live changes the time to live. -/
theorem apply_ttlSeconds {c : Cache} {op : Operation} (h : op.keepsTtl c.ttlSeconds) :
    (c.apply op).ttlSeconds = c.ttlSeconds := by
  cases op with
  | put k e now => exact (put_config c k e now).2.1
  | get k now => exact (get_trims c k now).ttlSeconds
  | change ch =>
      cases ch with
      | setTtl ttl? => exact h
      | setEnabled enabled =>
          show (c.setEnabled enabled).ttlSeconds = _
          unfold setEnabled
          split <;> rfl
      | _ => rfl
  | load files now =>
      rw [apply_load, takeOver_eq]
  | save files => rfl

/-- The counters count the look-ups of a cache that is on. -/
theorem apply_counters (c : Cache) (op : Operation) :
    (c.apply op).hits + (c.apply op).misses
      = c.hits + c.misses + UInt64.ofNat (if c.enabled && op.isGet then 1 else 0) := by
  cases op with
  | put k e now =>
      show (c.put k e now).hits + (c.put k e now).misses = _
      rw [(put_config c k e now).2.2.2.1, (put_config c k e now).2.2.2.2]
      simp [Operation.isGet]
  | get k now =>
      show (c.get k now).2.hits + (c.get k now).2.misses = _
      -- Off counts nothing, nothing there and expired are misses, and found is a hit.
      rcases get_cases c k now with ⟨hon, h⟩ | ⟨hon, _, h⟩ | ⟨e, hon, _, _, h⟩ | ⟨e, hon, _, _, h⟩
      · simp [h, hon]
      · simp [h, hon, Operation.isGet, UInt64.add_assoc]
      · simp [h, hon, Operation.isGet, UInt64.add_assoc]
      · simp only [h, hon, Operation.isGet, Bool.and_self, if_true]
        rw [UInt64.add_assoc, UInt64.add_comm 1, ← UInt64.add_assoc]
        rfl
  | change ch =>
      show (c.change ch).hits + (c.change ch).misses = _
      rw [(change_fixed c ch).2.1, (change_fixed c ch).2.2]
      simp [Operation.isGet]
  | load files now =>
      rw [apply_load, takeOver_eq]
      simp [Operation.isGet]
  | save files => simp [apply, Operation.isGet]

theorem apply_size_le {c : Cache} (op : Operation) (h : c.entries.size ≤ c.maxEntries) :
    (c.apply op).entries.size ≤ c.maxEntries := by
  cases op with
  | put k e now => exact put_size_le k e now h
  | get k now => exact Nat.le_trans (get_trims c k now).size_le h
  | change ch => exact Nat.le_trans (change_size_le c ch) h
  | load files now =>
      rw [apply_load]
      exact takeOver_size_le now _ h
  | save files => exact h

theorem apply_emptyWhenOff {c : Cache} (op : Operation) (h : c.EmptyWhenOff) :
    (c.apply op).EmptyWhenOff := by
  cases op with
  | put k e now => exact h.put k e now
  | get k now => exact h.trims (get_trims c k now)
  | change ch => exact h.change ch
  | load files now =>
      intro hoff
      have hc : c.enabled = false := by
        rw [apply_load, takeOver_eq] at hoff
        exact hoff
      rw [apply_load, snapshotEntries_of_off hc]
      exact h hc
  | save files => exact h

namespace Ledger

/-- What holds of every ledger: its cache is within its limit, empty when off,
its counters are right, and it holds nothing but what stands. -/
structure Sound (l : Ledger) : Prop where
  bounded : l.cache.entries.size ≤ l.cache.maxEntries
  emptyWhenOff : l.cache.EmptyWhenOff
  counted : l.cache.hits + l.cache.misses = UInt64.ofNat l.asked
  stands : ∀ k e, l.cache.entries.get? k = some e → standing k l.marks = some e

theorem sound_start (config : CacheConfig) : (start config).Sound where
  bounded := Nat.zero_le _
  emptyWhenOff := fun _ => rfl
  counted := rfl
  stands := fun k e h => by
    rw [show (start config).cache.entries.get? k = none from get?_ofConfig config k] at h
    simp at h

theorem Sound.step {l : Ledger} (h : l.Sound) (op : Operation) : (l.step op).Sound where
  bounded := by
    show (l.cache.apply op).entries.size ≤ (l.cache.apply op).maxEntries
    rw [apply_maxEntries]
    exact apply_size_le op h.bounded
  emptyWhenOff := apply_emptyWhenOff op h.emptyWhenOff
  -- Counting wraps around where the words do, so the equation is one of words.
  counted := by
    show (l.cache.apply op).hits + (l.cache.apply op).misses = _
    rw [apply_counters, h.counted, ← UInt64.ofNat_add]
    rfl
  -- What is held after the step was stored by it, or was held before and stood then.
  stands := fun k e he => by
    cases keyStep l op k with
    | stored e' held marked =>
        obtain rfl := Option.some.inj (held.symm.trans he)
        exact marked
    | removed held marked =>
        rw [held] at he
        simp at he
    | kept held marked =>
        rw [held] at he
        exact marked.trans (h.stands k e he)
    | expired now e' read was dead held marked =>
        rw [held] at he
        simp at he

theorem Sound.run {l : Ledger} (h : l.Sound) (ops : List Operation) : (l.run ops).Sound := by
  induction ops generalizing l with
  | nil => exact h
  | cons op ops ih => exact ih (h.step op)

/-- What stands is held, unless it has expired by the time `clock`. -/
def Complete (clock : Nat) (l : Ledger) : Prop :=
  ∀ k e, standing k l.marks = some e →
    l.cache.entries.get? k = some e ∨ e.isExpired l.cache.ttl? clock = true

theorem Complete.later {clock later : Nat} {l : Ledger} (h : l.Complete clock)
    (hle : clock ≤ later) : l.Complete later := by
  intro k e hs
  rcases h k e hs with hheld | hx
  · exact Or.inl hheld
  · exact Or.inr (Entry.isExpired_mono hle hx)

theorem Complete.step {clock : Nat} {l : Ledger} {op : Operation} (h : l.Complete clock)
    (hread : ∀ now, op.reading? = some now → now ≤ clock)
    (httl : op.keepsTtl l.cache.ttlSeconds) : (l.step op).Complete clock := by
  have httl' : (l.step op).cache.ttl? = l.cache.ttl? := by
    unfold ttl?
    rw [show (l.step op).cache.ttlSeconds = l.cache.ttlSeconds from apply_ttlSeconds httl]
  intro k e hs
  rw [httl']
  cases keyStep l op k with
  | stored e' held marked =>
      obtain rfl := Option.some.inj (marked.symm.trans hs)
      exact Or.inl held
  | removed held marked =>
      rw [marked] at hs
      simp at hs
  | kept held marked =>
      rw [marked] at hs
      rw [held]
      exact h k e hs
  | expired now e' read was dead held marked =>
      rw [marked] at hs
      rcases h k e hs with hheld | hx
      · -- What was dropped is what stood, and it had expired.
        obtain rfl := Option.some.inj (was.symm.trans hheld)
        exact Or.inr (Entry.isExpired_mono (hread now read) dead)
      · exact Or.inr hx

/-- What the clock showed in a run, in order. -/
def readings (ops : List Operation) : List Nat := ops.filterMap Operation.reading?

theorem Complete.run {ops : List Operation} {clock later : Nat} {l : Ledger}
    (h : l.Complete clock) (hle : clock ≤ later)
    (hfrom : ∀ t ∈ readings ops, clock ≤ t) (hto : ∀ t ∈ readings ops, t ≤ later)
    (hsorted : (readings ops).Pairwise (· ≤ ·))
    (httl : ∀ op ∈ ops, op.keepsTtl l.cache.ttlSeconds) : (l.run ops).Complete later := by
  -- The clock moves up to each reading before the step that takes it.
  induction ops generalizing l clock with
  | nil => exact h.later hle
  | cons op ops ih =>
      have hkeeps := httl op List.mem_cons_self
      have hrest : ∀ op' ∈ ops, op'.keepsTtl (l.step op).cache.ttlSeconds := by
        intro op' hop'
        rw [show (l.step op).cache.ttlSeconds = l.cache.ttlSeconds from apply_ttlSeconds hkeeps]
        exact httl op' (List.mem_cons_of_mem _ hop')
      cases hr : op.reading? with
      | none =>
          rw [readings, List.filterMap_cons_none hr] at hfrom hto hsorted
          have hstep : (l.step op).Complete clock := h.step (by simp [hr]) hkeeps
          exact ih hstep hle hfrom hto hsorted hrest
      | some now =>
          rw [readings, List.filterMap_cons_some hr] at hfrom hto hsorted
          have hstep : (l.step op).Complete now := by
            refine (h.later (hfrom now List.mem_cons_self)).step ?_ hkeeps
            intro t ht
            rw [hr] at ht
            exact Nat.le_of_eq (Option.some.inj ht).symm
          exact ih hstep (hto now List.mem_cons_self) (List.pairwise_cons.mp hsorted).1
            (fun t ht => hto t (List.mem_cons_of_mem _ ht)) (List.pairwise_cons.mp hsorted).2
            hrest

theorem run_maxEntries (l : Ledger) (ops : List Operation) :
    (l.run ops).cache.maxEntries = l.cache.maxEntries := by
  induction ops generalizing l with
  | nil => rfl
  | cons op ops ih =>
      rw [show l.run (op :: ops) = (l.step op).run ops from rfl, ih]
      exact apply_maxEntries l.cache op

end Ledger

/-! ## §7. Whole runs. -/

open Ledger

/-- **The cache over whole runs.**  After any operations a cache is within its
limit, empty when off, and its hits and misses together count how often it was
asked while it was on, modulo 2^64.  It answers only with what stands, and only
while that is live.  If the time to live stays as it was and the clock never
goes back, it does answer with what stands, as long as that is live. -/
theorem run_answers_what_stands (config : CacheConfig) (ops : List Operation) :
    let l := (start config).run ops
    l.cache.entries.size ≤ config.maxEntries
      ∧ (l.cache.enabled = false → l.cache.entries.size = 0)
      ∧ l.cache.hits + l.cache.misses = UInt64.ofNat l.asked
      ∧ (∀ k now e, (l.cache.get k now).1 = some e →
        standing k l.marks = some e
          ∧ ∀ ttl, l.cache.ttl? = some ttl → now - e.createdAt < ttl)
      ∧ ((∀ op ∈ ops, op.keepsTtl config.ttlSeconds) → (readings ops).Pairwise (· ≤ ·) →
        ∀ k now e, (∀ t ∈ readings ops, t ≤ now) → l.cache.enabled = true →
          standing k l.marks = some e →
          (∀ ttl, l.cache.ttl? = some ttl → now - e.createdAt < ttl) →
          (l.cache.get k now).1 = some e) := by
  intro l
  have hsound : l.Sound := (sound_start config).run ops
  refine ⟨?_, hsound.emptyWhenOff, hsound.counted, ?_, ?_⟩
  · have hmax : l.cache.maxEntries = config.maxEntries := run_maxEntries (start config) ops
    rw [← hmax]
    exact hsound.bounded
  · intro k now e hget
    obtain ⟨_, hheld, hlive⟩ := get_eq_some_iff.mp hget
    exact ⟨hsound.stands k e hheld, Entry.isExpired_eq_false_iff.mp hlive⟩
  · intro httl hsorted k now e hto hon hstands hlive
    -- Nothing stands at the start, so what stands is held there whatever the clock shows.
    have hstart : (start config).Complete 0 := fun k e hs => by
      rw [show standing k (start config).marks = none from rfl] at hs
      simp at hs
    have hcomplete : l.Complete now :=
      hstart.run (Nat.zero_le _) (fun _ _ => Nat.zero_le _) hto hsorted httl
    have hnot := Entry.isExpired_eq_false_iff.mpr hlive
    rcases hcomplete k e hstands with hheld | hx
    · exact get_eq_some_iff.mpr ⟨hon, hheld, hnot⟩
    · rw [hx] at hnot
      simp at hnot

/-- A page stored at five is found at seven and again at nine, within its ten
seconds. -/
theorem stored_page_found :
    let page : CacheKey := ⟨"home", [], none⟩
    let greeting : Entry := ⟨.text [104, 105], 5⟩
    let l := (start { ttlSeconds := 10 }).run [.put page greeting 5, .get page 7]
    standing page l.marks = some greeting ∧ l.cache.hits + l.cache.misses = 1
      ∧ (l.cache.get page 9).1 = some greeting := by
  intro page greeting l
  have hstands : standing page l.marks = some greeting := by decide
  obtain ⟨-, -, hcounted, -, hfound⟩ := run_answers_what_stands { ttlSeconds := 10 }
    [.put page greeting 5, .get page 7]
  refine ⟨hstands, hcounted, hfound ?_ (by decide) page 9 greeting ?_ rfl hstands ?_⟩
  · -- Neither of the two sets a time to live.
    intro op hop
    rcases List.mem_cons.mp hop with rfl | hop
    · trivial
    · obtain rfl := List.mem_singleton.mp hop
      trivial
  · show ∀ t ∈ [5, 7], t ≤ 9
    decide
  · intro ttl httl
    obtain rfl := Option.some.inj httl
    decide

/-! ## §8. When an entry is stored. -/

/-- **When an entry is stored.**  After any operations, storing leaves the entry
under its key exactly if the cache is on and the key was there, live or not, or
fewer entries are live than the limit allows; otherwise nothing was under the
key, and nothing is.  Either way every live entry under another key stays as it
is, and no other key is added or changed. -/
theorem put_stores_iff (config : CacheConfig) (ops : List Operation) (k : CacheKey) (e : Entry)
    (now : Nat) :
    let c := ((Ledger.start config).run ops).cache
    let stored := (c.put k e now).entries
    (stored.get? k = some e
        ↔ c.enabled = true
          ∧ (c.entries.contains k = true ∨ c.liveCount now < config.maxEntries))
      ∧ (stored.get? k = some e ∨ c.entries.get? k = none ∧ stored.get? k = none)
      ∧ (∀ k' e', k' ≠ k → c.entries.get? k' = some e' → e'.isExpired c.ttl? now = false →
          stored.get? k' = some e')
      ∧ (∀ k' e', k' ≠ k → stored.get? k' = some e' → c.entries.get? k' = some e') := by
  intro c stored
  have hempty : c.EmptyWhenOff := ((Ledger.sound_start config).run ops).emptyWhenOff
  have hmax : c.maxEntries = config.maxEntries := Ledger.run_maxEntries (Ledger.start config) ops
  rw [← hmax]
  refine ⟨⟨?_, fun h => get?_put_of_admits h e⟩, ?_, ?_, ?_⟩
  · intro hstored
    -- What is refused is not there, so an entry that is there was admitted.
    by_cases h : c.Admits k now
    · exact h
    · have hnone : stored.get? k = none := get?_put_of_not_admits hempty h e
      rw [hstored] at hnone
      exact absurd hnone (by simp)
  · by_cases h : c.Admits k now
    · exact .inl (get?_put_of_admits h e)
    · exact .inr ⟨get?_of_not_admits hempty h, get?_put_of_not_admits hempty h e⟩
  · intro k' e' hne hheld hlive
    rcases put_keeps hheld with hkept | hexpired | ⟨hk, _⟩
    · exact hkept
    · rw [hlive] at hexpired
      exact absurd hexpired (by decide)
    · exact absurd hk hne
  · intro k' e' hne hheld
    rcases get?_put hheld with ⟨hk, _⟩ | hold
    · exact absurd hk hne
    · exact hold

/-- With its one place taken, a cache takes another key only once the entry there
is expired. -/
example :
    let c := ((Ledger.start { maxEntries := 1, ttlSeconds := 10 }).run
      [.put ⟨"home", [], none⟩ ⟨.text [], 0⟩ 0]).cache
    let put (now : Nat) := (c.put ⟨"about", [], none⟩ ⟨.text [], now⟩ now).entries
    (put 5).contains ⟨"about", [], none⟩ = false
      ∧ (put 20).contains ⟨"about", [], none⟩ = true := by
  decide

end Switchyard.Cache
