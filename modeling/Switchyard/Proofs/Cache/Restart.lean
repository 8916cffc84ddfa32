/-
  Switchyard.Proofs.Cache.Restart
  ───────────────────────────────
  The cache across a restart.  What is saved and loaded again are the live
  entries, whole but for the header values that cannot be read.  What is loaded
  and saved again are the stored entries, with the header values that are plain
  text: loading accepts more values than saving writes.

      Operation.Timed — the times that are stored fit their type
      Entry.Restored  — what an entry comes back as
      AllTaken        — stored entries that an empty cache takes over
      SameEntries     — two snapshots with the same entries, as far as the
                        values go that are kept

  Main statements:

      reload_live_entries — saving, then loading into a fresh cache
      resave_plain_values — loading into an empty cache, then saving
-/
import Mathlib.Data.List.Nodup
import Switchyard.Proofs.Cache.History
import Switchyard.Proofs.Cache.Saving
import Switchyard.Proofs.Cache.Stored

namespace Switchyard

namespace Cache

open StoredEntry FileSystem

/-! ## §1. The times of what is held. -/

/-- The time of an entry that is stored fits its type. -/
def Operation.Timed : Operation → Prop
  | .put _ e _ => e.createdAt < UInt64.size
  | _ => True

theorem mem_of_mem_taken {p : CacheKey × Entry} {now : Nat} {ps : List (CacheKey × Entry)}
    {c : Cache} (h : p ∈ c.taken now ps) : p ∈ ps := by
  induction ps generalizing c with
  | nil => exact h
  | cons q ps ih =>
      obtain ⟨k, e⟩ := q
      rw [taken] at h
      split at h
      · exact List.mem_cons_of_mem _ (ih h)
      · rcases List.mem_cons.mp h with rfl | h
        · exact List.mem_cons_self
        · exact List.mem_cons_of_mem _ (ih h)

theorem timed_of_mem_snapshotEntries {c : Cache} {files : FileSystem} {p : CacheKey × Entry}
    (h : p ∈ c.snapshotEntries files) : p.2.createdAt < UInt64.size := by
  unfold snapshotEntries at h
  split at h
  · exact absurd h List.not_mem_nil
  split at h
  · exact absurd h List.not_mem_nil
  split at h
  · exact absurd h List.not_mem_nil
  split at h
  · exact absurd h List.not_mem_nil
  · next stored hparse =>
    obtain ⟨s, hs, hp⟩ := List.mem_filterMap.mp h
    have htime := congrArg StoredEntry.createdAt (ofEntry_of_valid hp).2
    exact Nat.lt_of_le_of_lt (Nat.le_of_eq htime) (inRange_of_parse hparse s hs).2

/-- The times of all entries that were ever stored fit their type. -/
def Ledger.Timed (l : Ledger) : Prop :=
  ∀ k e, Mark.stored k e ∈ l.marks → e.createdAt < UInt64.size

theorem Ledger.Timed.step {l : Ledger} {op : Operation} (h : l.Timed) (hop : op.Timed) :
    (l.step op).Timed := by
  intro k e hmem
  -- Only storing and loading leave a mark of a stored entry.
  rcases List.mem_append.mp hmem with hmem | hmem
  · rw [List.mem_reverse] at hmem
    cases op with
    | put k' e' now =>
        change Mark.stored k e ∈ (if _ then [Mark.stored k' e'] else []) at hmem
        split at hmem
        · obtain ⟨rfl, rfl⟩ := Mark.stored.inj (List.mem_singleton.mp hmem)
          exact hop
        · exact absurd hmem List.not_mem_nil
    | get k' now => exact absurd hmem List.not_mem_nil
    | change ch =>
        obtain ⟨r, _, hr⟩ := List.mem_map.mp hmem
        exact absurd hr (by simp)
    | load files now =>
        obtain ⟨p, hp, hmark⟩ := List.mem_map.mp hmem
        obtain ⟨rfl, rfl⟩ := Mark.stored.inj hmark
        exact timed_of_mem_snapshotEntries (mem_of_mem_taken hp)
    | save files => exact absurd hmem List.not_mem_nil
  · exact h k e hmem

theorem Ledger.Timed.run {l : Ledger} {ops : List Operation} (h : l.Timed)
    (hops : ∀ op ∈ ops, op.Timed) : (l.run ops).Timed := by
  induction ops generalizing l with
  | nil => exact h
  | cons op ops ih =>
      exact ih (h.step (hops op List.mem_cons_self)) fun op' hop' =>
        hops op' (List.mem_cons_of_mem _ hop')

/-- The times of what is held fit their type, as what is held was stored. -/
theorem timed_of_held {l : Ledger} (hsound : l.Sound) (htimed : l.Timed) {k : CacheKey} {e : Entry}
    (h : l.cache.entries.get? k = some e) : e.createdAt < UInt64.size := by
  obtain ⟨mark, hmark, hentry⟩ := Option.bind_eq_some_iff.mp (hsound.stands k e h)
  cases mark with
  | stored k' e' =>
      obtain rfl := Option.some.inj hentry
      exact htimed k' e' (List.mem_of_find?_eq_some hmark)
  | removed r => exact absurd hentry (by simp [Mark.entry?])

/-! ## §2. Loading into an empty cache. -/

/-- The entries that are live. -/
def liveOnes (ttl? : Option Nat) (now : Nat) (ps : List (CacheKey × Entry)) :
    List (CacheKey × Entry) :=
  ps.filter fun p => !p.2.isExpired ttl? now

/-- Where there is room for all, the live ones are taken. -/
theorem taken_eq_liveOnes {now : Nat} {ps : List (CacheKey × Entry)} {c : Cache}
    (hroom : c.entries.size + ps.length ≤ c.maxEntries) :
    c.taken now ps = liveOnes c.ttl? now ps := by
  induction ps generalizing c with
  | nil => rfl
  | cons p ps ih =>
      obtain ⟨k, e⟩ := p
      rw [List.length_cons] at hroom
      have hfull : ¬ c.maxEntries ≤ c.entries.size := by omega
      rw [taken, liveOnes, List.filter_cons]
      by_cases hx : e.isExpired c.ttl? now = true
      · rw [if_pos (.inl hx), if_neg (by simp [hx])]
        exact ih (by omega)
      · rw [if_neg (not_or.mpr ⟨hx, hfull⟩), if_pos (by simp [hx])]
        have hsize : (c.entries.insert k e).size + ps.length ≤ c.maxEntries := by
          rw [Table.size_insert]
          split <;> omega
        exact congrArg _ (ih (c := { c with entries := c.entries.insert k e }) hsize)

/-- Entries with new keys are put in front, one after the other. -/
theorem pairs_insertAll {ps : List (CacheKey × Entry)} {t : Table CacheKey Entry}
    (h : ((ps.reverse ++ t.pairs).map Prod.fst).Nodup) :
    (insertAll t ps).pairs = ps.reverse ++ t.pairs := by
  induction ps generalizing t with
  | nil => rfl
  | cons p ps ih =>
      obtain ⟨k, e⟩ := p
      have hsplit : ((k, e) :: ps).reverse ++ t.pairs = ps.reverse ++ (k, e) :: t.pairs := by simp
      rw [hsplit] at h ⊢
      have hnew : (t.insert k e).pairs = (k, e) :: t.pairs := by
        have hkey : ∀ p ∈ t.pairs, p.1 ≠ k := by
          intro p hp hk
          rw [List.map_append, List.map_cons] at h
          refine (List.nodup_cons.mp (List.nodup_append.mp h).2.1).1 ?_
          exact List.mem_map.mpr ⟨p, hp, hk⟩
        -- Nothing is erased, as no other entry has the key.
        refine congrArg ((k, e) :: ·) (List.filter_eq_self.mpr fun p hp => ?_)
        simpa using hkey p hp
      rw [← hnew] at h ⊢
      exact ih h

/-- **An empty cache with room for all** takes over exactly the live entries. -/
theorem takeOver_of_empty {c : Cache} (now : Nat) {ps : List (CacheKey × Entry)}
    (hempty : c.entries.size = 0) (hkeys : (ps.map Prod.fst).Nodup)
    (hfits : ps.length ≤ c.maxEntries) :
    ∃ d, c.takeOver now ps = ((liveOnes c.ttl? now ps).length, d)
      ∧ d.snapshotPath? = c.snapshotPath?
      ∧ d.entries.pairs = (liveOnes c.ttl? now ps).reverse := by
  have hnil : c.entries.pairs = [] := List.length_eq_zero_iff.mp hempty
  have htaken : c.taken now ps = liveOnes c.ttl? now ps := taken_eq_liveOnes (by omega)
  refine ⟨{ c with entries := insertAll c.entries (liveOnes c.ttl? now ps) }, ?_, rfl, ?_⟩
  · rw [takeOver_eq, htaken]
  show (insertAll c.entries _).pairs = _
  have hlive : ((liveOnes c.ttl? now ps).map Prod.fst).Nodup :=
    hkeys.sublist (List.filter_sublist.map _)
  rw [pairs_insertAll, hnil, List.append_nil]
  rw [hnil, List.append_nil, List.map_reverse]
  exact List.pairwise_reverse.mpr (hlive.imp Ne.symm)

theorem load_of_parse {c : Cache} {fs : FileSystem} {path : String} {content : Bytes}
    {stored : List StoredEntry} (hpath : c.snapshotPath? = some path) (hon : c.enabled = true)
    (hread : fs.read path = .ok content) (hparse : parseSnapshot content = .ok stored) (now : Nat) :
    c.load fs now = .ok (c.takeOver now (stored.filterMap toEntry?)) := by
  unfold load
  rw [hpath]
  simp only [hon, pathExists_of_read hread, hread]
  show ((parseSnapshot content).mapError LoadError.content >>= _) = _
  rw [hparse]
  rfl

/-! ## §3. Saving, then loading. -/

end Cache

/-- What an entry comes back as: the same status, body and time, and under each
name the header values that can be read, in their order. -/
structure Entry.Restored (e e' : Entry) : Prop where
  status : e'.response.status = e.response.status
  body : e'.response.body = e.response.body
  createdAt : e'.createdAt = e.createdAt
  values : ∀ name, e'.response.headers.values name
    = (e.response.headers.values name).filter HeaderValue.isReadable

theorem Entry.restored_readable (e : Entry) : e.Restored e.readable where
  status := rfl
  body := rfl
  createdAt := rfl
  values := fun name => Headers.values_readable e.response.headers name

namespace Cache

open StoredEntry FileSystem

/-- What is loaded of a cache that was saved. -/
theorem filterMap_storedEntries (c : Cache) :
    c.storedEntries.filterMap toEntry? = c.entries.pairs.map fun p => (p.1, p.2.readable) := by
  rw [storedEntries, List.filterMap_map, ← List.filterMap_eq_map]
  congr 1
  funext p
  exact valid_ofEntry p.1 p.2

/-- What is found in a table that holds the live entries of another one. -/
theorem get?_of_liveOnes {t t' : Table CacheKey Entry} {ttl? : Option Nat} {now : Nat}
    (h : t'.pairs = (liveOnes ttl? now (t.pairs.map fun p => (p.1, p.2.readable))).reverse)
    (k : CacheKey) :
    t'.get? k = ((t.get? k).filter fun e => !e.isExpired ttl? now).map Entry.readable := by
  apply Option.ext
  intro e'
  rw [Table.get?_eq_some_iff, h, List.mem_reverse, liveOnes, List.mem_filter, List.mem_map,
    Option.map_eq_some_iff]
  -- An entry has its time also without some of its headers, so it lives as long.
  constructor
  · rintro ⟨⟨⟨k', e⟩, hmem, heq⟩, hlive⟩
    obtain ⟨rfl, rfl⟩ := Prod.mk.inj heq
    exact ⟨e, Option.filter_eq_some_iff.mpr ⟨(Table.get?_eq_some_iff t k' e).mpr hmem, hlive⟩, rfl⟩
  · rintro ⟨e, he, rfl⟩
    obtain ⟨hheld, hlive⟩ := Option.filter_eq_some_iff.mp he
    exact ⟨⟨(k, e), (Table.get?_eq_some_iff t k e).mp hheld, rfl⟩, hlive⟩

/-- **Saving, then loading into a fresh cache.**  Whatever happened to a cache,
once it is saved a fresh one with the same limit loads the snapshot, counts the
entries that are live, and holds exactly these.

That saving succeeds means that the snapshot is there because the device has no
faults here.  One that fails or fills up on the last octets, which are written as
the file is closed, goes unnoticed: the success is reported, and the snapshot is
cut off and cannot be loaded. -/
theorem reload_live_entries (config : CacheConfig) (ops : List Operation)
    (htimed : ∀ op ∈ ops, op.Timed) (path : String) (fs : FileSystem) (n ttl now : Nat) :
    let c := ((Ledger.start config).run ops).cache
    let fresh := Cache.new true ttl c.maxEntries (some path)
    c.snapshotPath? = some path → (c.save fs).1 = .ok n →
      n = c.entries.size
        ∧ ∃ d, fresh.load (c.save fs).2 now
              = .ok ((c.entries.filter fun _ e => !e.isExpired fresh.ttl? now).size, d)
          ∧ ∀ k, Option.Rel Entry.Restored
              ((c.entries.get? k).filter fun e => !e.isExpired fresh.ttl? now)
              (d.entries.get? k) := by
  intro c fresh hpath hsave
  have hsound : ((Ledger.start config).run ops).Sound := (Ledger.sound_start config).run ops
  have hmarks : ((Ledger.start config).run ops).Timed :=
    Ledger.Timed.run (fun _ _ h => absurd h List.not_mem_nil) htimed
  obtain ⟨hn, hread⟩ := read_of_save hpath (Prod.ext hsave rfl : c.save fs = (.ok n, (c.save fs).2))
  refine ⟨hn, ?_⟩
  -- The file is read as it was written, since the times fit what is read.
  have hparse : parseSnapshot c.snapshotOctets = .ok c.storedEntries := by
    refine parse_snapshotText fun s hs => ?_
    obtain ⟨p, hp, rfl⟩ := List.mem_map.mp hs
    exact inRange_ofEntry p.1 (timed_of_held hsound hmarks ((Table.get?_eq_some_iff _ _ _).mpr hp))
  have hkeys : ((c.entries.pairs.map fun p => (p.1, p.2.readable)).map Prod.fst).Nodup := by
    rw [List.map_map]
    exact c.entries.distinct
  -- All entries fit in the fresh cache, as they did in the one that was saved.
  have hfits : (c.entries.pairs.map fun p => (p.1, p.2.readable)).length ≤ fresh.maxEntries := by
    rw [List.length_map]
    exact hsound.bounded
  obtain ⟨d, htake, -, hpairs⟩ := takeOver_of_empty (c := fresh) now rfl hkeys hfits
  refine ⟨d, ?_, fun k => ?_⟩
  · rw [load_of_parse rfl rfl hread hparse, filterMap_storedEntries, htake]
    congr 2
    rw [liveOnes, List.filter_map, List.length_map]
    rfl
  · rw [get?_of_liveOnes hpairs k]
    cases (c.entries.get? k).filter fun e => !e.isExpired fresh.ttl? now with
    | none => exact .none
    | some e => exact .some e.restored_readable

/-- A page with a header that can be read and one that cannot comes back with
the first one, as long as it is live. -/
theorem page_reloads :
    let page : CacheKey := ⟨"page", [("name", "a/\u00e9")], some "q=1"⟩
    let headers := (Headers.empty.add .contentType (.ofString "text/html")).add .server
      (.ofString "\u00e9")
    let entry : Entry := ⟨⟨.ok, headers, Utf8.encode "hello"⟩, 1000⟩
    let ops : List Operation := [.put page entry 1000]
    let c := ((Ledger.start { persistencePath := some "cache.json" }).run ops).cache
    let fresh := Cache.new true 60 c.maxEntries (some "cache.json")
    (c.save .empty).1 = .ok 1
      ∧ ∃ d, fresh.load (c.save .empty).2 1059 = .ok (1, d)
        ∧ Option.Rel Entry.Restored (some entry) (d.entries.get? page) := by
  intro page headers entry ops c fresh
  have hsave : (c.save .empty).1 = .ok 1 := by rfl
  refine ⟨hsave, ?_⟩
  have htimed : ∀ op ∈ ops, op.Timed := by
    intro op hop
    obtain rfl := List.mem_singleton.mp hop
    show 1000 < UInt64.size
    decide
  obtain ⟨-, d, hload, hheld⟩ :=
    reload_live_entries { persistencePath := some "cache.json" } ops htimed "cache.json" .empty
      1 60 1059 rfl hsave
  exact ⟨d, hload, hheld page⟩

/-! ## §4. Loading, then saving. -/

/-- The stored entries are all taken over by the cache, if it is empty: they
are valid, live and fit in it, and each has its own key. -/
structure AllTaken (c : Cache) (now : Nat) (stored : List StoredEntry) : Prop where
  valid : ∀ s ∈ stored, ∃ p, toEntry? s = some p
  live : ∀ s ∈ stored, ∀ ttl, c.ttl? = some ttl → now - s.createdAt < ttl
  distinct : (stored.map StoredEntry.key).Nodup
  fits : stored.length ≤ c.maxEntries

/-- The two snapshots have the same entries, up to the order of the entries, the
order of headers of different names and the case of these names.  Of the header
values the second has those that are kept. -/
structure SameEntries (keep : String → Bool) (stored written : List StoredEntry) : Prop where
  keys : (written.map StoredEntry.key).Perm (stored.map StoredEntry.key)
  rest : ∀ s ∈ stored, ∀ t ∈ written, t.key = s.key →
    t.status = s.status ∧ t.body = s.body ∧ t.createdAt = s.createdAt
      ∧ ∀ name, t.values name = (s.values name).filter keep

/-- What is made of each valid entry is made of all of them. -/
theorem map_validEntries {β : Type} {f : StoredEntry → β} {g : CacheKey × Entry → β}
    (hfg : ∀ s p, toEntry? s = some p → g p = f s) {stored : List StoredEntry}
    (hvalid : ∀ s ∈ stored, ∃ p, toEntry? s = some p) :
    (stored.filterMap toEntry?).map g = stored.map f := by
  induction stored with
  | nil => rfl
  | cons s stored ih =>
      obtain ⟨p, hp⟩ := hvalid s List.mem_cons_self
      rw [List.filterMap_cons_some hp, List.map_cons, List.map_cons, hfg s p hp,
        ih fun s' hs' => hvalid s' (List.mem_cons_of_mem _ hs')]

theorem liveOnes_of_allTaken {c : Cache} {now : Nat} {stored : List StoredEntry}
    (h : c.AllTaken now stored) :
    liveOnes c.ttl? now (stored.filterMap toEntry?) = stored.filterMap toEntry? := by
  refine List.filter_eq_self.mpr fun p hp => ?_
  obtain ⟨s, hs, hentry⟩ := List.mem_filterMap.mp hp
  have htime : p.2.createdAt = s.createdAt :=
    congrArg StoredEntry.createdAt (ofEntry_of_valid hentry).2
  have hlive : p.2.isExpired c.ttl? now = false := by
    rw [Entry.isExpired_eq_false_iff, htime]
    exact h.live s hs
  rw [hlive]
  rfl

/-- **Loading, then saving**: what is written are the entries that were loaded,
each with the values that are plain text. -/
theorem load_save_kept {c : Cache} {path : String} {now : Nat} {fs fs' : FileSystem}
    {content : Bytes} {stored : List StoredEntry} (hpath : c.snapshotPath? = some path)
    (hon : c.enabled = true) (hempty : c.entries.size = 0) (hread : fs.read path = .ok content)
    (hparse : parseSnapshot content = .ok stored) (htaken : c.AllTaken now stored)
    (hnames : fs'.NamesFile path) (htemporary : fs'.NamesFile (temporary path)) :
    ∃ d fs'' content', c.load fs now = .ok (stored.length, d)
      ∧ d.save fs' = (.ok stored.length, fs'') ∧ fs''.read path = .ok content'
      ∧ parseSnapshot content' = .ok (stored.map kept).reverse := by
  have hkeys : (stored.filterMap toEntry?).map Prod.fst = stored.map StoredEntry.key :=
    map_validEntries (fun s p hp => (ofEntry_of_valid hp).1) htaken.valid
  have hkept : (stored.filterMap toEntry?).map (fun p => ofEntry p.1 p.2) = stored.map kept :=
    map_validEntries (fun s p hp => (ofEntry_of_valid hp).2) htaken.valid
  have hlength : (stored.filterMap toEntry?).length = stored.length := by
    rw [← List.length_map Prod.fst, hkeys, List.length_map]
  obtain ⟨d, htake, hdpath, hpairs⟩ := takeOver_of_empty now hempty
    (by rw [hkeys]; exact htaken.distinct) (by rw [hlength]; exact htaken.fits)
  rw [liveOnes_of_allTaken htaken, hlength] at htake
  rw [liveOnes_of_allTaken htaken] at hpairs
  have hstored : d.storedEntries = (stored.map kept).reverse := by
    rw [storedEntries, hpairs, List.map_reverse]
    exact congrArg _ hkept
  have hsize : d.entries.size = stored.length := by
    rw [Table.size, hpairs, List.length_reverse, hlength]
  have hdpath' : d.snapshotPath? = some path := hdpath.trans hpath
  obtain ⟨n, fs'', hsave⟩ := (save_isOk_iff hdpath').mpr ⟨hnames, htemporary⟩
  obtain ⟨rfl, hwritten⟩ := read_of_save hdpath' hsave
  refine ⟨d, fs'', d.snapshotOctets, ?_, by rw [hsave, hsize], hwritten, ?_⟩
  · rw [load_of_parse hpath hon hread hparse, htake]
  · rw [snapshotOctets, hstored]
    -- What is written is in range again, as keeping touches no number.
    refine parse_snapshotText fun t ht => ?_
    obtain ⟨s, hs, rfl⟩ := List.mem_map.mp (List.mem_reverse.mp ht)
    exact inRange_of_parse hparse s hs

theorem sameEntries_kept {stored : List StoredEntry} (h : (stored.map StoredEntry.key).Nodup) :
    SameEntries isPlainText stored (stored.map kept).reverse where
  keys := by
    rw [List.map_reverse, List.map_map]
    exact List.reverse_perm _
  rest := by
    intro s hs t ht hkey
    obtain ⟨s', hs', rfl⟩ := List.mem_map.mp (List.mem_reverse.mp ht)
    obtain rfl : s' = s := List.inj_on_of_nodup_map h hs' hs hkey
    exact ⟨rfl, rfl, rfl, fun name => values_kept s' name⟩

/-- Nothing is lost of a snapshot in which all values are kept, and only then. -/
theorem SameEntries.all_iff {keep : String → Bool} {stored written : List StoredEntry}
    (h : SameEntries keep stored written) :
    SameEntries (fun _ => true) stored written
      ↔ ∀ s ∈ stored, ∀ p ∈ s.headers, keep p.2 = true := by
  constructor
  · -- An entry is written under its key, so a lost value shows there.
    intro hall s hs p hp
    obtain ⟨t, ht, hkey⟩ := List.mem_map.mp (h.keys.mem_iff.mpr (List.mem_map_of_mem hs))
    have hkept := (h.rest s hs t ht hkey).2.2.2 (Text.lowercase p.1)
    have hsame := (hall.rest s hs t ht hkey).2.2.2 (Text.lowercase p.1)
    rw [hkept, List.filter_true] at hsame
    refine List.filter_eq_self.mp hsame p.2 ?_
    exact List.mem_map.mpr ⟨p, List.mem_filter.mpr ⟨hp, by simp⟩, rfl⟩
  · refine fun hall => ⟨h.keys, fun s hs t ht hkey => ?_⟩
    obtain ⟨hstatus, hbody, htime, hvalues⟩ := h.rest s hs t ht hkey
    refine ⟨hstatus, hbody, htime, fun name => ?_⟩
    rw [hvalues name, List.filter_true, List.filter_eq_self]
    intro value hvalue
    obtain ⟨p, hp, rfl⟩ := List.mem_map.mp hvalue
    exact hall s hs p (List.mem_of_mem_filter hp)

/-- **Loading into an empty cache, then saving.**  A snapshot that is taken over
as a whole is written again with the same entries, and under each name with the
values that are plain text.  So nothing is lost exactly if all values are. -/
theorem resave_plain_values {c : Cache} {path : String} {now : Nat} {fs fs' : FileSystem}
    {content : Bytes} {stored : List StoredEntry} (hpath : c.snapshotPath? = some path)
    (hon : c.enabled = true) (hempty : c.entries.size = 0) (hread : fs.read path = .ok content)
    (hparse : parseSnapshot content = .ok stored) (htaken : c.AllTaken now stored)
    (hnames : fs'.NamesFile path) (htemporary : fs'.NamesFile (Path.withExtension path "tmp")) :
    ∃ d fs'' content' written, c.load fs now = .ok (stored.length, d)
      ∧ d.save fs' = (.ok stored.length, fs'') ∧ fs''.read path = .ok content'
      ∧ parseSnapshot content' = .ok written
      ∧ SameEntries isPlainText stored written
      ∧ (SameEntries (fun _ => true) stored written
        ↔ ∀ s ∈ stored, ∀ p ∈ s.headers, isPlainText p.2 = true) := by
  obtain ⟨d, fs'', content', hload, hsave, hwritten, hparse'⟩ :=
    load_save_kept hpath hon hempty hread hparse htaken hnames htemporary
  have hsame := sameEntries_kept htaken.distinct
  exact ⟨d, fs'', content', _, hload, hsave, hwritten, hparse', hsame, hsame.all_iff⟩

/-- A stored page with two values of one header, one of them beyond ASCII. -/
def accentedPage : StoredEntry :=
  ⟨⟨"page", [], none⟩, 200, [("X-Name", "cafe"), ("x-name", "caf\u00e9")],
    Utf8.encode "hello", 1000⟩

def accentedFiles : FileSystem :=
  FileSystem.empty.addFile "cache.json" (Utf8.encode (snapshotText [accentedPage]))

theorem accentedFiles_read :
    accentedFiles.read "cache.json" = .ok (Utf8.encode (snapshotText [accentedPage])) := by
  rfl

theorem accentedFiles_namesTemporary : accentedFiles.NamesFile (temporary "cache.json") :=
  ⟨["cache.tmp"], rfl, by decide +kernel⟩

theorem accentedPage_parse :
    parseSnapshot (Utf8.encode (snapshotText [accentedPage])) = .ok [accentedPage] := by
  refine parse_snapshotText fun s hs => ?_
  obtain rfl := List.mem_singleton.mp hs
  exact ⟨by decide, by decide⟩

theorem accentedPage_allTaken :
    (Cache.new true 0 10 (some "cache.json")).AllTaken 2000 [accentedPage] where
  valid := by
    intro s hs
    obtain rfl := List.mem_singleton.mp hs
    exact Option.isSome_iff_exists.mp (by decide +kernel)
  live := by
    intro s hs ttl httl
    exact absurd httl (by simp [Cache.new, ttl?])
  distinct := List.nodup_singleton _
  fits := by decide

/-- Of the two values the page is written with the one in plain text. -/
theorem accentedPage_resaved :
    ∃ d fs' content written,
      (Cache.new true 0 10 (some "cache.json")).load accentedFiles 2000 = .ok (1, d)
        ∧ d.save accentedFiles = (.ok 1, fs') ∧ fs'.read "cache.json" = .ok content
        ∧ parseSnapshot content = .ok written
        ∧ SameEntries isPlainText [accentedPage] written := by
  obtain ⟨d, fs', content, written, hload, hsave, hread, hparse, hsame, -⟩ :=
    resave_plain_values rfl rfl rfl accentedFiles_read accentedPage_parse accentedPage_allTaken
      (namesFile_of_read accentedFiles_read) accentedFiles_namesTemporary
  exact ⟨d, fs', content, written, hload, hsave, hread, hparse, hsame⟩

/-- A snapshot that is taken over as a whole may lose a value when it is saved
again. -/
theorem accentedPage_loses_value :
    (Cache.new true 0 10 (some "cache.json")).AllTaken 2000 [accentedPage]
      ∧ ∃ d fs' content written,
        (Cache.new true 0 10 (some "cache.json")).load accentedFiles 2000 = .ok (1, d)
          ∧ d.save accentedFiles = (.ok 1, fs') ∧ fs'.read "cache.json" = .ok content
          ∧ parseSnapshot content = .ok written
          ∧ ¬ SameEntries (fun _ => true) [accentedPage] written := by
  refine ⟨accentedPage_allTaken, ?_⟩
  obtain ⟨d, fs', content, hload, hsave, hread, hparse⟩ :=
    load_save_kept rfl rfl rfl accentedFiles_read accentedPage_parse accentedPage_allTaken
      (namesFile_of_read accentedFiles_read) accentedFiles_namesTemporary
  refine ⟨d, fs', content, _, hload, hsave, hread, hparse, fun hsame => ?_⟩
  have hvalues := (hsame.rest accentedPage (by simp) accentedPage.kept (by simp) rfl).2.2.2 "x-name"
  revert hvalues
  decide +kernel

end Cache

end Switchyard
