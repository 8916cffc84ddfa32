/-
  Switchyard.Proofs.Cache.Disk
  ────────────────────────────
  A cache and its snapshot over whole runs, in which the cache loads and saves.
  A cache that is off holds nothing and loads nothing.  Saving does not look at
  the switch, so it writes a snapshot without entries over what was there.

      Writable — both the snapshot and its temporary file can be written
      OnDisk   — a cache together with the files
      Off      — a cache that is off and holds nothing

  Main statements:

      content?_save          — what a snapshot holds once it is saved
      Off.step               — kept by every call that does not switch on
      off_keeps_snapshot_iff — when a cache that is off leaves its snapshot alone
-/
import Switchyard.Proofs.Cache.Restart
import Switchyard.Proofs.Cache.Room

namespace Switchyard.Cache

open StoredEntry FileSystem

variable {c : Cache} {fs fs' : FileSystem} {path : String}

/-! ## §1. What saving leaves. -/

/-- Both the snapshot and its temporary file can be written where their paths
lead. -/
def Writable (fs : FileSystem) (path : String) : Prop :=
  fs.NamesFile path ∧ fs.NamesFile (temporary path)

theorem Writable.congr (h : SameDirectories fs fs') : Writable fs' path ↔ Writable fs path :=
  ⟨fun hw => ⟨h.symm.namesFile hw.1, h.symm.namesFile hw.2⟩,
    fun hw => ⟨h.namesFile hw.1, h.namesFile hw.2⟩⟩

theorem save_sameDirectories (c : Cache) (fs : FileSystem) :
    SameDirectories fs (c.save fs).2 := by
  cases hpath : c.snapshotPath? with
  | none =>
      unfold save
      rw [hpath]
      exact .refl fs
  | some path =>
      rw [save_eq hpath]
      exact run_sameDirectories fs _

/-- **A snapshot that can be written** holds the cache once it is saved. -/
theorem content?_save (hpath : c.snapshotPath? = some path) (hw : Writable fs path) :
    (c.save fs).2.content? path = some c.snapshotOctets := by
  obtain ⟨n, fs', hsave⟩ := (save_isOk_iff hpath).mpr hw
  rw [content?_eq_some_iff, hsave]
  exact (read_of_save hpath hsave).2

theorem content?_of_not_namesFile (h : ¬ fs.NamesFile path) : fs.content? path = none := by
  cases hc : fs.content? path with
  | none => rfl
  | some content => exact absurd (namesFile_of_read (content?_eq_some_iff.mp hc)) h

/-- One that cannot be written stays as it is. -/
theorem content?_save_of_not_writable (hpath : c.snapshotPath? = some path)
    (hw : ¬ Writable fs path) : (c.save fs).2.content? path = fs.content? path := by
  by_cases hname : fs.NamesFile path
  · -- There is no temporary file, so nothing is written at all.
    obtain ⟨e, hrun⟩ := run_create_of_not_namesFile fun htemp => hw ⟨hname, htemp⟩
    rw [save_eq hpath, savePlan_eq, hrun]
  · have hdirs := save_sameDirectories c fs
    rw [content?_of_not_namesFile hname,
      content?_of_not_namesFile fun hn => hname (hdirs.symm.namesFile hn)]

/-! ## §2. A cache and the files. -/

/-- One call of a cache that loads from the files and saves to them. -/
inductive Call where
  | put (k : CacheKey) (e : Entry) (now : Nat)
  | get (k : CacheKey) (now : Nat)
  | change (ch : Change)
  | load (now : Nat)
  | save
  deriving DecidableEq

/-- The operation that a call is on the files as they are. -/
def Call.operation (files : FileSystem) : Call → Operation
  | .put k e now => .put k e now
  | .get k now => .get k now
  | .change ch => .change ch
  | .load now => .load files now
  | .save => .save files

/-- A cache together with the files. -/
structure OnDisk where
  cache : Cache
  files : FileSystem

namespace OnDisk

/-- Only saving writes to the files. -/
def step (s : OnDisk) (call : Call) : OnDisk where
  cache := s.cache.apply (call.operation s.files)
  files := if call = .save then (s.cache.save s.files).2 else s.files

def run (s : OnDisk) (calls : List Call) : OnDisk := calls.foldl step s

theorem step_files_of_ne {call : Call} (h : call ≠ .save) (s : OnDisk) :
    (s.step call).files = s.files := if_neg h

theorem step_files_save (s : OnDisk) : (s.step .save).files = (s.cache.save s.files).2 := rfl

/-- No call makes or removes a directory. -/
theorem step_sameDirectories (s : OnDisk) (call : Call) :
    SameDirectories s.files (s.step call).files := by
  by_cases hsave : call = .save
  · subst hsave
    exact save_sameDirectories s.cache s.files
  · rw [step_files_of_ne hsave]
    exact .refl s.files

end OnDisk

/-! ## §3. A cache that is off. -/

/-- The cache is off, it holds nothing, and its snapshot is at the path. -/
structure Off (c : Cache) (path : String) : Prop where
  off : c.enabled = false
  empty : c.entries.size = 0
  snapshotPath : c.snapshotPath? = some path

theorem off_ofConfig {config : CacheConfig} (hoff : config.enabled = false)
    (hpath : config.persistencePath = some path) : Off (ofConfig config) path where
  off := hoff
  empty := rfl
  snapshotPath := hpath

/-- A change that does not switch it on leaves it off. -/
theorem Off.change (h : Off c path) {ch : Change} (hch : ch ≠ .setEnabled true) :
    Off (c.change ch) path := by
  have hempty : (c.change ch).entries.size = 0 :=
    Nat.le_zero.mp (h.empty ▸ change_size_le c ch)
  cases ch with
  | setEnabled enabled =>
      obtain rfl : enabled = false := by
        cases enabled with
        | false => rfl
        | true => exact absurd rfl hch
      have hsame : c.setEnabled false = { c with enabled := false } := by
        simp [setEnabled, h.off]
      refine ⟨rfl, hempty, ?_⟩
      show (c.setEnabled false).snapshotPath? = _
      rw [hsame]
      exact h.snapshotPath
  | _ => exact ⟨h.off, hempty, h.snapshotPath⟩

/-- **What is off stays off** until it is switched on. -/
theorem Off.step {s : OnDisk} {call : Call} (h : Off s.cache path)
    (hcall : call ≠ .change (.setEnabled true)) : Off (s.step call).cache path := by
  cases call with
  | put k e now =>
      show Off (s.cache.put k e now) path
      rw [put_of_off h.off]
      exact h
  | get k now =>
      show Off (s.cache.get k now).2 path
      rw [get_of_off h.off]
      exact h
  | change ch => exact h.change fun hch => hcall (congrArg Call.change hch)
  | load now =>
      show Off (s.cache.apply (.load s.files now)) path
      rw [apply_load, snapshotEntries_of_off h.off]
      exact h
  | save => exact h

/-- All that it saves are the two brackets. -/
theorem Off.snapshotOctets (h : Off c path) : c.snapshotOctets = Utf8.encode "[]" := by
  have hnone : c.storedEntries = [] := by
    rw [storedEntries, List.length_eq_zero_iff.mp h.empty]
    rfl
  rw [Cache.snapshotOctets, hnone]
  rfl

/-! ## §4. Whole runs. -/

variable {s : OnDisk} {calls : List Call}

/-- Without saving, and where it cannot be written, the snapshot stays. -/
theorem Off.content?_run_kept (h : Off s.cache path)
    (hcalls : ∀ call ∈ calls, call ≠ .change (.setEnabled true))
    (hkept : Call.save ∈ calls → ¬ Writable s.files path) :
    (s.run calls).files.content? path = s.files.content? path := by
  induction calls generalizing s with
  | nil => rfl
  | cons call calls ih =>
      have hdirs := s.step_sameDirectories call
      have hrest := ih (h.step (hcalls call List.mem_cons_self))
        (fun call' hc => hcalls call' (List.mem_cons_of_mem _ hc))
        fun hsave hw => hkept (List.mem_cons_of_mem _ hsave) ((Writable.congr hdirs).mp hw)
      refine Eq.trans hrest ?_
      by_cases hsave : call = .save
      · subst hsave
        exact content?_save_of_not_writable h.snapshotPath (hkept List.mem_cons_self)
      · rw [OnDisk.step_files_of_ne hsave]

/-- Once it is saved there is nothing left in it, whatever is called later. -/
theorem Off.content?_run_saved (h : Off s.cache path)
    (hcalls : ∀ call ∈ calls, call ≠ .change (.setEnabled true))
    (hsave : Call.save ∈ calls) (hw : Writable s.files path) :
    (s.run calls).files.content? path = some (Utf8.encode "[]") := by
  induction calls generalizing s with
  | nil => exact absurd hsave List.not_mem_nil
  | cons call calls ih =>
      have hstep := h.step (hcalls call List.mem_cons_self)
      have hrest : ∀ call' ∈ calls, call' ≠ .change (.setEnabled true) :=
        fun call' hc => hcalls call' (List.mem_cons_of_mem _ hc)
      have hw' : Writable (s.step call).files path :=
        (Writable.congr (s.step_sameDirectories call)).mpr hw
      -- The last time that it is saved decides.
      by_cases hagain : Call.save ∈ calls
      · exact ih hstep hrest hagain hw'
      · obtain rfl : Call.save = call := (List.mem_cons.mp hsave).resolve_right hagain
        refine Eq.trans (hstep.content?_run_kept hrest fun hs => absurd hs hagain) ?_
        rw [OnDisk.step_files_save, content?_save h.snapshotPath hw, h.snapshotOctets]

/-- **When a cache that is off leaves its snapshot alone**: whatever is called,
as long as it is not switched on, exactly if it is not saved, or the snapshot
cannot be written, or there was no entry in it.  Otherwise there is none in it
afterwards. -/
theorem off_keeps_snapshot_iff {config : CacheConfig} (hoff : config.enabled = false)
    (hpath : config.persistencePath = some path) (fs : FileSystem)
    (hcalls : ∀ call ∈ calls, call ≠ .change (.setEnabled true)) :
    let after := ((⟨ofConfig config, fs⟩ : OnDisk).run calls).files
    let saved := Call.save ∈ calls ∧ fs.NamesFile path
      ∧ fs.NamesFile (Path.withExtension path "tmp")
    (after.content? path = fs.content? path
        ↔ (saved → fs.content? path = some (Utf8.encode "[]")))
      ∧ (saved → after.content? path = some (Utf8.encode "[]")) := by
  intro after saved
  have hstart : Off (⟨ofConfig config, fs⟩ : OnDisk).cache path := off_ofConfig hoff hpath
  have hemptied : saved → after.content? path = some (Utf8.encode "[]") :=
    fun ⟨hsave, hw⟩ => hstart.content?_run_saved hcalls hsave hw
  refine ⟨⟨fun hsame hsaved => hsame.symm.trans (hemptied hsaved), fun hcond => ?_⟩, hemptied⟩
  by_cases hsaved : saved
  · rw [hemptied hsaved, hcond hsaved]
  · exact hstart.content?_run_kept hcalls fun hsave hw => hsaved ⟨hsave, hw⟩

/-- A page stays on disk while the cache only loads and is emptied. -/
theorem accentedPage_stays :
    let config : CacheConfig := { enabled := false, persistencePath := some "cache.json" }
    ((⟨ofConfig config, accentedFiles⟩ : OnDisk).run
      [.load 2000, .change .clear]).files.content? "cache.json"
        = accentedFiles.content? "cache.json" := by
  intro config
  have hcalls : ∀ call ∈ [Call.load 2000, .change .clear], call ≠ .change (.setEnabled true) := by
    decide
  have hkept := off_keeps_snapshot_iff (rfl : config.enabled = false)
    (rfl : config.persistencePath = some "cache.json") accentedFiles hcalls
  exact hkept.1.mpr fun hsaved => absurd hsaved.1 (by decide)

/-- It is lost when a server starts and stops with its cache off. -/
theorem accentedPage_lost :
    let config : CacheConfig := { enabled := false, persistencePath := some "cache.json" }
    let calls : List Call := [.load 2000, .save]
    (∀ call ∈ calls, call ≠ .change (.setEnabled true))
      ∧ ((⟨ofConfig config, accentedFiles⟩ : OnDisk).run calls).files.content? "cache.json"
        ≠ accentedFiles.content? "cache.json" := by
  intro config calls
  have hcalls : ∀ call ∈ calls, call ≠ .change (.setEnabled true) := by decide
  have hw : Writable accentedFiles "cache.json" :=
    ⟨namesFile_of_read accentedFiles_read, accentedFiles_namesTemporary⟩
  have hoff : Off (⟨ofConfig config, accentedFiles⟩ : OnDisk).cache "cache.json" :=
    off_ofConfig rfl rfl
  have hemptied := hoff.content?_run_saved hcalls (by decide) hw
  refine ⟨hcalls, ?_⟩
  rw [hemptied, content?_eq_some_iff.mpr accentedFiles_read]
  decide +kernel

end Switchyard.Cache
