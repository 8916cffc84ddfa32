/-
  Switchyard.Proofs.Config.Forwarding
  ───────────────────────────────────
  What a watch on a configuration file forwards over a whole run.  Each report
  of the watch comes with what is in the file at that time.  Of the valid texts
  that are seen on the way, those are forwarded that differ from the one that
  was forwarded before; everything else leaves no trace.

      Sighting           — a report, and the content of the file when it comes
      Sighting.version?  — the valid text that it shows
      follow             — a whole run

  Main statements:

      onReport_of_version, onReport_of_none — all that one report can do
      follow_lastApplied                    — what is remembered after a run
      follow_cases                          — whether anything was forwarded
      follow_sent                           — what was forwarded
      forwards_new_versions
-/
import Mathlib.Data.List.Destutter
import Switchyard.Config.Reload

namespace Switchyard

/-! ## §1. Sightings. -/

/-- A report, and what is in the file when it comes. -/
structure Sighting where
  report : WatchReport
  content : Except FileError String

/-- The text of a valid version of the file at a path: a file of its name was
created or modified, and the text that is in it now spells a valid
configuration. -/
def Sighting.version? (path : String) (s : Sighting) : Option String :=
  match s.report, s.content with
  | .event change paths, .ok text =>
      if (change = .created ∨ change = .modified)
          ∧ (∃ p ∈ paths, Path.fileName? p = Path.fileName? path)
          ∧ (Config.parse text).toOption.isSome then some text else none
  | _, _ => none

theorem Sighting.version?_eq_some_iff {path text : String} {s : Sighting} :
    s.version? path = some text
      ↔ ∃ change paths c, s = ⟨.event change paths, .ok text⟩
        ∧ (change = .created ∨ change = .modified)
        ∧ (∃ p ∈ paths, Path.fileName? p = Path.fileName? path)
        ∧ Config.parse text = .ok c := by
  -- Only a report of an event, with a content that can be read, gets as far as the checks.
  obtain ⟨report, content⟩ := s
  constructor
  · intro h
    unfold version? at h
    split at h
    · next change paths text' hreport hcontent =>
      simp only at hreport hcontent
      split at h
      · next hall =>
        obtain rfl := Option.some.inj h
        obtain ⟨hchange, hnamed, hvalid⟩ := hall
        cases hparse : Config.parse text' with
        | error e =>
            rw [hparse] at hvalid
            exact absurd hvalid (by simp [Except.toOption])
        | ok c => exact ⟨change, paths, c, by rw [hreport, hcontent], hchange, hnamed, rfl⟩
      · exact absurd h (by simp)
    · exact absurd h (by simp)
  · rintro ⟨change, paths, c, heq, hchange, hnamed, hparse⟩
    obtain ⟨rfl, rfl⟩ := Sighting.mk.inj heq
    have hvalid : (Config.parse text).toOption.isSome = true := by
      rw [hparse]
      rfl
    exact if_pos ⟨hchange, hnamed, hvalid⟩

theorem Sighting.parse_of_version? {path text : String} (s : Sighting)
    (h : s.version? path = some text) : ∃ c, Config.parse text = .ok c := by
  obtain ⟨-, -, c, -, -, -, hparse⟩ := version?_eq_some_iff.mp h
  exact ⟨c, hparse⟩

namespace Reloader

/-! ## §2. All that one report can do. -/

/-- What concerns the file: one of its name was created or modified. -/
theorem concerns_event_iff (r : Reloader) (change : FileChange) (paths : List String) :
    r.concerns (.event change paths) = true
      ↔ (change = .created ∨ change = .modified)
        ∧ ∃ p ∈ paths, Path.fileName? p = Path.fileName? r.path := by
  cases change <;> simp [concerns]

/-- **A valid version is forwarded and remembered**, unless it is the one that
was forwarded last or nobody receives it. -/
theorem onReport_of_version {r : Reloader} {s : Sighting} {text : String} {c : Config}
    (h : s.version? r.path = some text) (hparse : Config.parse text = .ok c) (received : Bool) :
    r.onReport received s.report s.content
      = if r.lastApplied ≠ some text ∧ received = true
        then (some c, { r with lastApplied := some text }) else (none, r) := by
  obtain ⟨change, paths, _, rfl, hchange, hnamed, -⟩ := Sighting.version?_eq_some_iff.mp h
  have hconcerns := (r.concerns_event_iff change paths).mpr ⟨hchange, hnamed⟩
  unfold onReport reload
  rw [if_pos hconcerns]
  by_cases hsame : r.lastApplied = some text
  · simp [hsame]
  · simp only [hparse, hsame, if_false, ne_eq, not_false_eq_true, true_and]

/-- **Everything else changes nothing.** -/
theorem onReport_of_none {r : Reloader} {s : Sighting} (h : s.version? r.path = none)
    (received : Bool) : r.onReport received s.report s.content = (none, r) := by
  obtain ⟨report, content⟩ := s
  unfold onReport
  split
  · next hconcerns =>
    -- The report concerns the file, so it is its content that is at fault.
    cases content with
    | error e => rfl
    | ok text =>
        cases hparse : Config.parse text with
        | error e => simp [reload, hparse]
        | ok c =>
            cases report with
            | failure => exact absurd hconcerns (by simp [concerns])
            | event change paths =>
                obtain ⟨hchange, hnamed⟩ := (r.concerns_event_iff change paths).mp hconcerns
                have hsome := Sighting.version?_eq_some_iff.mpr
                  ⟨change, paths, c, rfl, hchange, hnamed, hparse⟩
                rw [hsome] at h
                exact absurd h (by simp)
  · rfl

/-- Where nobody receives what is forwarded, nothing is remembered. -/
theorem onReport_unreceived (r : Reloader) (s : Sighting) :
    r.onReport false s.report s.content = (none, r) := by
  cases h : s.version? r.path with
  | none => exact onReport_of_none h false
  | some text =>
      obtain ⟨c, hparse⟩ := s.parse_of_version? h
      rw [onReport_of_version h hparse]
      simp

theorem onReport_path (r : Reloader) (received : Bool) (s : Sighting) :
    (r.onReport received s.report s.content).2.path = r.path := by
  cases h : s.version? r.path with
  | none => rw [onReport_of_none h]
  | some text =>
      obtain ⟨c, hparse⟩ := s.parse_of_version? h
      rw [onReport_of_version h hparse]
      split <;> rfl

/-! ## §3. Whole runs. -/

/-- Answers some reports, one after the other: the configurations that are
forwarded, in order, and the watch after them. -/
def follow (r : Reloader) (received : Bool) : List Sighting → List Config × Reloader
  | [] => ([], r)
  | s :: sightings =>
      let (forwarded, r) := r.onReport received s.report s.content
      let (later, r) := r.follow received sightings
      (forwarded.toList ++ later, r)

theorem follow_path (r : Reloader) (received : Bool) (ss : List Sighting) :
    (r.follow received ss).2.path = r.path := by
  induction ss generalizing r with
  | nil => rfl
  | cons s ss ih => exact (ih _).trans (r.onReport_path received s)

theorem follow_unreceived (r : Reloader) (ss : List Sighting) : r.follow false ss = ([], r) := by
  induction ss with
  | nil => rfl
  | cons s ss ih => simp only [follow, onReport_unreceived, ih, Option.toList_none, List.nil_append]

/-- The valid texts that are seen, in order. -/
def versions (path : String) (ss : List Sighting) : List String :=
  ss.filterMap (Sighting.version? path)

theorem versions_cons_of_none {path : String} {s : Sighting} (h : s.version? path = none)
    (ss : List Sighting) : versions path (s :: ss) = versions path ss :=
  List.filterMap_cons_none h

theorem versions_cons_of_some {path text : String} {s : Sighting}
    (h : s.version? path = some text) (ss : List Sighting) :
    versions path (s :: ss) = text :: versions path ss :=
  List.filterMap_cons_some h

theorem versions_append_of_some {path text : String} {s : Sighting}
    (h : s.version? path = some text) (ss others : List Sighting) :
    versions path (ss ++ s :: others) = versions path ss ++ text :: versions path others := by
  rw [versions, List.filterMap_append, List.filterMap_cons_some h]
  rfl

/-- A run that begins with something else than a version. -/
theorem follow_cons_of_none {r : Reloader} {s : Sighting} (h : s.version? r.path = none)
    (ss : List Sighting) : r.follow true (s :: ss) = r.follow true ss := by
  simp only [follow, onReport_of_none h, Option.toList_none, List.nil_append]

/-- A run that begins with the version that was forwarded last. -/
theorem follow_cons_of_known {r : Reloader} {s : Sighting} {text : String}
    (h : s.version? r.path = some text) (hknown : r.lastApplied = some text)
    (ss : List Sighting) : r.follow true (s :: ss) = r.follow true ss := by
  obtain ⟨c, hparse⟩ := s.parse_of_version? h
  have hone := onReport_of_version h hparse true
  rw [if_neg (by simp [hknown])] at hone
  simp only [follow, hone, Option.toList_none, List.nil_append]

/-- A run that begins with another version. -/
theorem follow_cons_of_new {r : Reloader} {s : Sighting} {text : String} {c : Config}
    (h : s.version? r.path = some text) (hparse : Config.parse text = .ok c)
    (hnew : r.lastApplied ≠ some text) (ss : List Sighting) :
    r.follow true (s :: ss)
      = (c :: (({ r with lastApplied := some text } : Reloader).follow true ss).1,
        (({ r with lastApplied := some text } : Reloader).follow true ss).2) := by
  have hone := onReport_of_version h hparse true
  rw [if_pos ⟨hnew, rfl⟩] at hone
  simp only [follow, hone, Option.toList_some, List.singleton_append]

/-- **What is remembered is the last valid text that was seen**: where it was not
forwarded, it was remembered already. -/
theorem follow_lastApplied (r : Reloader) (ss : List Sighting) :
    (r.follow true ss).2.lastApplied = (versions r.path ss).getLast?.or r.lastApplied := by
  induction ss generalizing r with
  | nil => rfl
  | cons s ss ih =>
      cases h : s.version? r.path with
      | none => rw [follow_cons_of_none h, versions_cons_of_none h, ih]
      | some text =>
          obtain ⟨c, hparse⟩ := s.parse_of_version? h
          -- Known or new, the version is what is remembered after it.
          rw [versions_cons_of_some h, List.getLast?_cons, Option.some_or]
          by_cases hknown : r.lastApplied = some text
          · rw [follow_cons_of_known h hknown, ih, hknown]
            cases (versions r.path ss).getLast? <;> rfl
          · rw [follow_cons_of_new h hparse hknown, ih]
            cases (versions r.path ss).getLast? <;> rfl

/-- **Either nothing is forwarded**, and all valid texts that are seen are the one
that was remembered from the start, **or what is forwarded last is what the last
valid text spells.** -/
theorem follow_cases (r : Reloader) (ss : List Sighting) :
    ((r.follow true ss).1 = [] ∧ ∀ text ∈ versions r.path ss, r.lastApplied = some text)
      ∨ ∃ text c, (versions r.path ss).getLast? = some text ∧ Config.parse text = .ok c
        ∧ (r.follow true ss).1.getLast? = some c
        ∧ ∃ other ∈ versions r.path ss, r.lastApplied ≠ some other := by
  induction ss generalizing r with
  | nil => exact .inl ⟨rfl, by simp [versions]⟩
  | cons s ss ih =>
      cases h : s.version? r.path with
      | none =>
          rw [follow_cons_of_none h, versions_cons_of_none h]
          exact ih r
      | some text =>
          obtain ⟨c, hparse⟩ := s.parse_of_version? h
          rw [versions_cons_of_some h]
          by_cases hknown : r.lastApplied = some text
          · rw [follow_cons_of_known h hknown]
            rcases ih r with ⟨hnone, hall⟩ | ⟨text', c', hlast, hparse', hc', other, hmem, hne⟩
            · refine .inl ⟨hnone, fun t ht => ?_⟩
              rcases List.mem_cons.mp ht with rfl | ht
              · exact hknown
              · exact hall t ht
            · refine .inr ⟨text', c', ?_, hparse', hc', other, List.mem_cons_of_mem _ hmem, hne⟩
              rw [List.getLast?_cons, hlast]
              rfl
          · rw [follow_cons_of_new h hparse hknown]
            have hlater := ih { r with lastApplied := some text }
            -- The version is forwarded, and it is the last unless another one follows.
            rcases hlater with ⟨hnone, hall⟩ | ⟨text', c', hlast, hparse', hc', -⟩
            · refine .inr ⟨text, c, ?_, hparse, by rw [hnone]; rfl, text, List.mem_cons_self, hknown⟩
              rw [List.getLast?_cons]
              cases hlast : (versions r.path ss).getLast? with
              | none => rfl
              | some t => exact (hall t (List.mem_of_getLast? hlast)).symm
            · refine .inr ⟨text', c', ?_, hparse', ?_, text, List.mem_cons_self, hknown⟩
              · rw [List.getLast?_cons, hlast]
                rfl
              · rw [List.getLast?_cons, hc']
                rfl

/-- The texts of what is forwarded are the valid ones that were seen, without each
that equals the one kept before it. -/
theorem follow_sent (r : Reloader) (ss : List Sighting) :
    ∃ sent : List String,
      r.lastApplied :: sent.map some
          = ((versions r.path ss).map some).destutter' (· ≠ ·) r.lastApplied
        ∧ (r.follow true ss).1.map Except.ok = sent.map Config.parse := by
  -- The text applied last is what the next one is compared with, here as in `destutter`.
  induction ss generalizing r with
  | nil => exact ⟨[], rfl, rfl⟩
  | cons s ss ih =>
      cases h : s.version? r.path with
      | none =>
          rw [follow_cons_of_none h, versions_cons_of_none h]
          exact ih r
      | some text =>
          obtain ⟨c, hparse⟩ := s.parse_of_version? h
          rw [versions_cons_of_some h, List.map_cons]
          by_cases hknown : r.lastApplied = some text
          · rw [follow_cons_of_known h hknown, List.destutter'_cons_neg _ (not_not.mpr hknown)]
            exact ih r
          · rw [follow_cons_of_new h hparse hknown, List.destutter'_cons_pos _ hknown]
            obtain ⟨sent, htexts, hconfigs⟩ := ih { r with lastApplied := some text }
            refine ⟨text :: sent, ?_, ?_⟩
            · rw [List.map_cons]
              exact congrArg _ htexts
            · rw [List.map_cons, List.map_cons, hparse]
              exact congrArg _ hconfigs

/-! ## §4. Each new version once. -/

/-- **Each new valid version is forwarded exactly once.**  Let a watch see anything,
with the texts of `versions` among it.  While what it forwards is received, it
forwards, in order, what those texts spell, without each that equals the text
forwarded last, which at the start is the one remembered.  So after a version and
anything that is none, the same version again is not forwarded, and any other is,
be it an old one.  What is no version changes nothing.  While nothing is received,
nothing is remembered. -/
theorem forwards_new_versions (r : Reloader) (ss : List Sighting) :
    (∃ sent : List String,
        r.lastApplied :: sent.map some
            = ((versions r.path ss).map some).destutter' (· ≠ ·) r.lastApplied
          ∧ (r.follow true ss).1.map Except.ok = sent.map Config.parse)
      ∧ (∀ (s s' : Sighting) (others : List Sighting) (text text' : String) (c' : Config),
          s.version? r.path = some text → (∀ o ∈ others, o.version? r.path = none) →
          s'.version? r.path = some text' → Config.parse text' = .ok c' →
          ((r.follow true (ss ++ s :: others)).2.onReport true s'.report s'.content).1
            = if text' = text then none else some c')
      ∧ (∀ (received : Bool) (s : Sighting), s.version? r.path = none →
          r.onReport received s.report s.content = (none, r))
      ∧ r.follow false ss = ([], r) := by
  refine ⟨r.follow_sent ss, ?_, fun received s h => onReport_of_none h received,
    r.follow_unreceived ss⟩
  intro s s' others text text' c' hs hothers hs' hparse'
  -- What is remembered then is the version, as no other was seen after it.
  have hnone : versions r.path others = [] := List.filterMap_eq_nil_iff.mpr hothers
  have hversions := versions_append_of_some hs ss others
  rw [hnone] at hversions
  have hlast := r.follow_lastApplied (ss ++ s :: others)
  have hpath := r.follow_path true (ss ++ s :: others)
  rw [hversions, List.getLast?_concat, Option.some_or] at hlast
  generalize (r.follow true (ss ++ s :: others)).2 = r' at hlast hpath ⊢
  rw [← hpath] at hs'
  rw [onReport_of_version hs' hparse', hlast]
  by_cases hsame : text' = text
  · simp [hsame]
  · simp [hsame, Ne.symm hsame]

/-- The switch of the cache is turned off and, after a text that is broken, off
again and on again: it is forwarded twice. -/
example :
    let saved (text : String) : Sighting := ⟨.event .modified ["etc/server.toml"], .ok text⟩
    let off := "[cache]\nenabled = false\n"
    (((Reloader.mk "server.toml" (some "")).follow true
      [saved off, saved "[cache", saved off, saved ""]).1.map fun c => c.cache.enabled)
      = [false, true] := by
  decide +kernel

end Reloader

end Switchyard
