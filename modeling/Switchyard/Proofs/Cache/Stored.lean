/-
  Switchyard.Proofs.Cache.Stored
  ──────────────────────────────
  The stored form of entries, in both directions.  The text of a snapshot is
  read back to what was written, and nothing else than what could have been
  written is ever read.  An entry comes back with the header values that can
  be read; a stored entry is written again with those that are plain text.

      InRange — the numbers of a stored entry fit their types
      values  — the stored values of one header, in order
      kept    — what is left of a stored entry when it is written again

  Main statements:

      parse_snapshotText — what was written is read
      inRange_of_parse   — what is read could have been written
      valid_ofEntry   — writing an entry, then reading it
      ofEntry_of_valid — reading an entry, then writing it
-/
import Switchyard.Cache.Snapshot
import Switchyard.Proofs.Http.HeaderText
import Switchyard.Proofs.Json.Reading
import Switchyard.Proofs.Json.Yields

namespace Switchyard

open Json Json.Reader

namespace StoredEntry

/-! ## §1. What is written is read. -/

theorem reads_pairs (ps : List (String × String)) : Reads readPairs (pairsJson ps) ps :=
  reads_array fun p _ => reads_pair (reads_text p.1) (reads_text p.2)

theorem reads_body (body : Bytes) :
    Reads readBody (.array (body.map fun b => .number b.toNat)) body := by
  have hnumbers : ∀ n ∈ body.map UInt8.toNat, Reads (natBelow 256) (.number n) n := by
    intro n hn
    obtain ⟨b, _, rfl⟩ := List.mem_map.mp hn
    exact reads_natBelow b.toNat_lt
  have hread := (reads_array hnumbers).map (List.map UInt8.ofNat)
  have hback : UInt8.ofNat ∘ UInt8.toNat = id := by
    funext b
    exact UInt8.ofNat_toNat
  rw [List.map_map, List.map_map, hback, List.map_id] at hread
  exact hread

theorem reads_key (k : CacheKey) : Reads readKey (keyJson k) k := by
  have hmembers : ReadsMembers keyMember {} [("binding", .text k.binding),
      ("params", pairsJson k.params), ("query", Json.optionalText k.query)]
      { binding := some k.binding, params := some k.params, query := some k.query } :=
    .cons rfl ((reads_text k.binding).map _)
      (.cons rfl ((reads_pairs k.params).map _)
        (.cons rfl ((reads_optionalText k.query).map _) (.nil _)))
  intro rest _
  show readKey (Utf8.octets ('\x7b' :: memberChars true _) ++ rest) = _
  rw [readKey, bind_of_ok (ahead_octets (by decide) _ _)]
  show (next >>= _) _ = _
  rw [bind_of_ok (next_octets (by decide) _ _), bind_of_ok (reads_members hmembers rest)]
  rfl

/-- The numbers of the entry fit their types: 16 bits for the status, 64 for
the time. -/
def InRange (s : StoredEntry) : Prop := s.status < 65536 ∧ s.createdAt < UInt64.size

theorem reads_entry {s : StoredEntry} (h : s.InRange) : Reads readEntry s.toJson s := by
  have hmembers : ReadsMembers entryMember {} [("key", keyJson s.key),
      ("status", .number s.status), ("headers", pairsJson s.headers),
      ("body", .array (s.body.map fun b => .number b.toNat)), ("created_at", .number s.createdAt)]
      { key := some s.key, status := some s.status, headers := some s.headers,
        body := some s.body, createdAt := some s.createdAt } :=
    .cons rfl ((reads_key s.key).map _)
      (.cons rfl ((reads_natBelow h.1).map _)
        (.cons rfl ((reads_pairs s.headers).map _)
          (.cons rfl ((reads_body s.body).map _)
            (.cons rfl ((reads_natBelow h.2).map _) (.nil _)))))
  intro rest _
  show readEntry (Utf8.octets ('\x7b' :: memberChars true _) ++ rest) = _
  rw [readEntry, bind_of_ok (ahead_octets (by decide) _ _)]
  show (next >>= _) _ = _
  rw [bind_of_ok (next_octets (by decide) _ _), bind_of_ok (reads_members hmembers rest)]
  rfl

/-- **What was written is read**, as long as the numbers fit. -/
theorem parse_snapshotText {entries : List StoredEntry} (h : ∀ s ∈ entries, s.InRange) :
    parseSnapshot (Utf8.encode (snapshotText entries)) = .ok entries :=
  reads_run (reads_array fun s hs => reads_entry (h s hs))

/-! ## §2. What is read could have been written. -/

/-- The numbers that are known fit their types. -/
def EntryDraft.InRange (d : EntryDraft) : Prop :=
  (∀ n, d.status = some n → n < 65536) ∧ ∀ t, d.createdAt = some t → t < UInt64.size

theorem once_yields {α σ : Type} {field : Option α} {value reader : Reader σ} {P : σ → Prop}
    (h : once field value = some reader) (hvalue : value.Yields P) : reader.Yields P := by
  unfold once at h
  split at h
  · exact absurd h (by simp)
  · obtain rfl := Option.some.inj h
    exact hvalue

theorem entryMember_yields (name : String) (d : EntryDraft) (value : Reader EntryDraft)
    (hd : d.InRange) (h : entryMember name d = some value) : value.Yields EntryDraft.InRange := by
  unfold entryMember at h
  split at h
  · exact once_yields h (.after fun _ => .pure hd)
  · refine once_yields h ((natBelow_yields _).bind fun n hn => .pure ⟨?_, hd.2⟩)
    rintro n' ⟨⟩
    exact hn
  · exact once_yields h (.after fun _ => .pure hd)
  · exact once_yields h (.after fun _ => .pure hd)
  · refine once_yields h ((natBelow_yields _).bind fun t ht => .pure ⟨hd.1, ?_⟩)
    rintro t' ⟨⟩
    exact ht
  · obtain rfl := Option.some.inj h
    exact .after fun _ => .pure hd

theorem readEntry_yields : readEntry.Yields InRange := by
  have hstart : EntryDraft.InRange {} := ⟨by simp, by simp⟩
  unfold readEntry
  -- An object or an array: either way both numbers are read below their bounds.
  refine .after fun c => ?_
  split
  · refine .after fun _ => (members_yields entryMember_yields hstart).bind fun d hd => ?_
    refine .after fun _ => (need_yields hd.1).bind fun _ hstatus => ?_
    refine .after fun _ => (need_yields hd.2).bind fun _ htime => ?_
    exact .pure ⟨hstatus, htime⟩
  · refine .after fun _ => .after fun _ => .after fun _ => ?_
    refine (natBelow_yields _).bind fun _ hstatus => ?_
    refine .after fun _ => .after fun _ => .after fun _ => .after fun _ => .after fun _ => ?_
    refine (natBelow_yields _).bind fun _ htime => ?_
    exact .after fun _ => .pure ⟨hstatus, htime⟩
  · exact misfit_yields

/-- **What is read could have been written.** -/
theorem inRange_of_parse {content : Bytes} {entries : List StoredEntry}
    (h : parseSnapshot content = .ok entries) : ∀ s ∈ entries, s.InRange :=
  run_yields (array_yields readEntry_yields) h

/-! ## §3. Headers. -/

/-- The stored form of header fields. -/
def fieldTexts (fields : List (HeaderName × HeaderValue)) : List (String × String) :=
  fields.filterMap fun (name, value) => value.text?.map fun text => (name.text, text)

theorem fieldTexts_cons (name : HeaderName) (value : HeaderValue)
    (fields : List (HeaderName × HeaderValue)) :
    fieldTexts ((name, value) :: fields)
      = (value.text?.map fun text => (name.text, text)).toList ++ fieldTexts fields := by
  unfold fieldTexts
  cases ht : value.text? with
  | none => rw [List.filterMap_cons_none (by simp [ht])]; rfl
  | some text => rw [List.filterMap_cons_some (by simp [ht]; rfl)]; rfl

/-- Fields are read back, as far as their values can be read. -/
theorem headers?_fieldTexts (fields : List (HeaderName × HeaderValue)) :
    headers? (fieldTexts fields) = some (Headers.readable ⟨fields⟩) := by
  induction fields with
  | nil => rfl
  | cons f fields ih =>
      obtain ⟨name, value⟩ := f
      have hread := HeaderValue.text?_isSome value
      rw [fieldTexts_cons]
      -- A field is written if its value can be read as text, and filtered out if not.
      cases ht : value.text? with
      | none =>
          have hnot : ¬ value.isReadable = true := by
            rw [← hread, ht]
            exact Bool.false_ne_true
          show headers? (fieldTexts fields)
            = some ⟨List.filter (·.2.isReadable) ((name, value) :: fields)⟩
          rw [List.filter_cons, if_neg hnot]
          exact ih
      | some text =>
          have hyes : value.isReadable = true := by
            rw [← hread, ht]
            rfl
          show headers? ((name.text, text) :: fieldTexts fields)
            = some ⟨List.filter (·.2.isReadable) ((name, value) :: fields)⟩
          rw [List.filter_cons, if_pos hyes, headers?, HeaderName.ofString?_text,
            HeaderValue.ofString?_of_text? ht, ih]
          rfl

/-- What is left of stored fields when they are written again. -/
def keptHeaders (ps : List (String × String)) : List (String × String) :=
  (ps.filter fun p => isPlainText p.2).map fun p => (Text.lowercase p.1, p.2)

theorem fieldTexts_of_headers? {ps : List (String × String)} {h : Headers}
    (hh : headers? ps = some h) : fieldTexts h.fields = keptHeaders ps := by
  induction ps generalizing h with
  | nil =>
      obtain rfl := Option.some.inj hh
      rfl
  | cons p ps ih =>
      obtain ⟨name, text⟩ := p
      simp only [headers?, Option.bind_eq_bind, Option.bind_eq_some_iff, Option.pure_def,
        Option.some.injEq] at hh
      obtain ⟨name', hname, value, hvalue, rest, hrest, rfl⟩ := hh
      rw [fieldTexts_cons, HeaderValue.text?_of_ofString? hvalue, ih hrest, keptHeaders,
        keptHeaders]
      by_cases hplain : isPlainText text = true
      · rw [if_pos hplain, List.filter_cons, if_pos hplain,
          HeaderName.text_of_ofString? hname]
        rfl
      · rw [if_neg hplain, List.filter_cons, if_neg hplain]
        rfl

/-! ## §4. Entries. -/

theorem inRange_ofEntry (k : CacheKey) {e : Entry} (h : e.createdAt < UInt64.size) :
    (ofEntry k e).InRange := by
  refine ⟨?_, h⟩
  have hdigits := e.response.status.three_digits.2
  show e.response.status.code < 65536
  omega

end StoredEntry

/-- The entry with the header values that can be read. -/
def Entry.readable (e : Entry) : Entry :=
  { e with response := { e.response with headers := e.response.headers.readable } }

namespace StoredEntry

/-- **Writing an entry, then reading it**, gives it back with the header values
that can be read. -/
theorem valid_ofEntry (k : CacheKey) (e : Entry) :
    toEntry? (ofEntry k e) = some (k, e.readable) := by
  have hstatus : Status.ofNat? e.response.status.code = some e.response.status :=
    dif_pos e.response.status.three_digits
  have hheaders : headers? (ofEntry k e).headers = some e.response.headers.readable :=
    headers?_fieldTexts e.response.headers.fields
  rw [ toEntry?, hheaders]
  show (Status.ofNat? e.response.status.code).bind _ = _
  rw [hstatus]
  rfl

/-- The stored entry without the header values that are not plain text, and
with the names of the headers in lower case. -/
def kept (s : StoredEntry) : StoredEntry := { s with headers := keptHeaders s.headers }

/-- **Reading an entry, then writing it.** -/
theorem ofEntry_of_valid {s : StoredEntry} {k : CacheKey} {e : Entry}
    (h : toEntry? s = some (k, e)) : k = s.key ∧ ofEntry k e = s.kept := by
  simp only [ toEntry?, Option.bind_eq_bind, Option.bind_eq_some_iff, Option.pure_def,
    Option.some.injEq, Prod.mk.injEq] at h
  obtain ⟨status, hstatus, headers, hheaders, rfl, rfl⟩ := h
  have hcode : status.code = s.status := by
    unfold Status.ofNat? at hstatus
    split at hstatus
    · obtain rfl := Option.some.inj hstatus
      rfl
    · exact absurd hstatus (by simp)
  refine ⟨rfl, ?_⟩
  show StoredEntry.mk s.key status.code (fieldTexts headers.fields) s.body s.createdAt = s.kept
  rw [hcode, fieldTexts_of_headers? hheaders]
  rfl

/-- The stored values of a header, in order; `name` is in lower case. -/
def values (s : StoredEntry) (name : String) : List String :=
  (s.headers.filter fun p => Text.lowercase p.1 = name).map Prod.snd

theorem values_kept (s : StoredEntry) (name : String) :
    s.kept.values name = (s.values name).filter isPlainText := by
  have hfilter : s.headers.filter (fun p => decide (Text.lowercase (Text.lowercase p.1) = name)
      && isPlainText p.2)
      = s.headers.filter fun p => isPlainText p.2 && decide (Text.lowercase p.1 = name) := by
    apply List.filter_congr
    intro p _
    rw [Text.lowercase_lowercase, Bool.and_comm]
  rw [values, values, kept, keptHeaders, List.filter_map, List.map_map, List.filter_map,
    List.filter_filter, List.filter_filter]
  simp only [Function.comp_def]
  rw [hfilter]

end StoredEntry

end Switchyard
