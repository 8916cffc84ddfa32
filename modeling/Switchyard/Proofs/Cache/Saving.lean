/-
  Switchyard.Proofs.Cache.Saving
  ──────────────────────────────
  Saving a snapshot, and what a crash in the middle of it leaves.  Until the
  temporary file takes its name, the snapshot is what it was, and from then on
  it is the new one, unless the snapshot is the temporary file itself: then
  saving empties it first.

      temporary       — the file that is written first
      snapshotOctets  — what is written to it
      SavesAtomically — a crash leaves the old snapshot or the new one

  Main statements:

      save_isOk_iff       — when saving succeeds
      read_of_save        — what is read afterwards
      savesAtomically_iff — which snapshots are never torn
-/
import Switchyard.Cache.Snapshot
import Switchyard.Proofs.Files.Writing
import Switchyard.Proofs.Text.Octets

namespace Switchyard

namespace Cache

open StoredEntry FileSystem

/-! ## §1. The plan of writes. -/

/-- The file that is written before it becomes the snapshot. -/
def temporary (path : String) : String := Path.withExtension path "tmp"

/-- The octets of the cache's snapshot. -/
def snapshotOctets (c : Cache) : Bytes := Utf8.encode (snapshotText c.storedEntries)

variable {c : Cache} {fs fs' : FileSystem} {path : String} {l : Location}

theorem savePlan_eq (c : Cache) (path : String) :
    c.savePlan path = [.create (temporary path), .append (temporary path) c.snapshotOctets,
      .rename (temporary path) path] := rfl

theorem run_cons_of_ok {w : Write} (h : fs.apply w = .ok fs') (plan : List Write) :
    fs.run (w :: plan) = fs'.run plan := by
  rw [run, h]

/-- A plan that begins with a file that cannot be made does nothing. -/
theorem run_create_of_not_namesFile (h : ¬ fs.NamesFile path) :
    ∃ e, ∀ plan, fs.run (.create path :: plan) = (.error e, fs) := by
  cases happly : fs.apply (.create path) with
  | error e => exact ⟨e, fun plan => by rw [run, happly]⟩
  | ok fs' => exact absurd (apply_create_isOk_iff.mp ⟨fs', happly⟩) h

/-- A new file, and a file with some content: the first writes of the plan. -/
theorem run_create (hl : fs.locate path = .ok l) (hfree : fs.at? l ≠ some .directory) :
    ∃ fs', Puts fs fs' l [] ∧ ∀ plan, fs.run (.create path :: plan) = fs'.run plan := by
  obtain ⟨fs', h⟩ := apply_create_isOk_iff.mpr ⟨l, hl, hfree⟩
  exact ⟨fs', puts_of_create hl h, run_cons_of_ok h⟩

theorem run_create_append (hl : fs.locate path = .ok l) (hfree : fs.at? l ≠ some .directory)
    (bytes : Bytes) :
    ∃ fs', Puts fs fs' l bytes
      ∧ ∀ plan, fs.run (.create path :: .append path bytes :: plan) = fs'.run plan := by
  obtain ⟨fs₁, hputs, hrun⟩ := run_create hl hfree
  obtain ⟨fs₂, happend, hputs'⟩ :=
    apply_append_of_file (hputs.sameDirectories.locate hl) hputs.at_self bytes
  exact ⟨fs₂, hputs.trans hputs', fun plan => (hrun _).trans (run_cons_of_ok happend plan)⟩

/-! ## §2. Saving. -/

theorem save_eq (hpath : c.snapshotPath? = some path) :
    c.save fs = ((fs.run (c.savePlan path)).1.map fun _ => c.entries.size,
      (fs.run (c.savePlan path)).2) := by
  unfold save
  rw [hpath]

/-- What is left of the plan once the temporary file is there. -/
theorem run_savePlan (c : Cache) (hl : fs.locate (temporary path) = .ok l)
    (hfree : fs.at? l ≠ some .directory) :
    ∃ fs', Puts fs fs' l c.snapshotOctets
      ∧ fs.run (c.savePlan path) = fs'.run [.rename (temporary path) path] := by
  obtain ⟨fs', hputs, hrun⟩ := run_create_append hl hfree c.snapshotOctets
  exact ⟨fs', hputs, by rw [savePlan_eq, hrun]⟩

/-- **Saving succeeds** if both the snapshot and the temporary file can be
written where their paths lead. -/
theorem save_isOk_iff (hpath : c.snapshotPath? = some path) :
    (∃ n fs', c.save fs = (.ok n, fs'))
      ↔ fs.NamesFile path ∧ fs.NamesFile (temporary path) := by
  rw [save_eq hpath]
  by_cases htemp : fs.NamesFile (temporary path)
  · obtain ⟨l, hl, hfree⟩ := htemp
    obtain ⟨fs', hputs, hrun⟩ := run_savePlan c hl hfree
    have hdirs := hputs.sameDirectories
    have hrename : (∃ fs'', fs'.apply (.rename (temporary path) path) = .ok fs'')
        ↔ fs'.NamesFile path := apply_rename_isOk_iff (hdirs.locate hl) hputs.at_self
    have hnames : fs'.NamesFile path ↔ fs.NamesFile path :=
      ⟨hdirs.symm.namesFile, hdirs.namesFile⟩
    rw [hrun, run]
    -- Only the renaming can still fail, and it looks at directories only.
    cases happly : fs'.apply (.rename (temporary path) path) with
    | error e =>
        have hnot : ¬ fs.NamesFile path := fun hn => by
          obtain ⟨_, h⟩ := hrename.mpr (hnames.mpr hn)
          rw [happly] at h
          exact absurd h (by simp)
        simp [Except.map, hnot]
    | ok fs'' =>
        have hyes : fs.NamesFile path := hnames.mp (hrename.mp ⟨fs'', happly⟩)
        simp [run, Except.map, hyes, show fs.NamesFile (temporary path) from ⟨l, hl, hfree⟩]
  · obtain ⟨e, hrun⟩ := run_create_of_not_namesFile htemp
    rw [savePlan_eq, hrun]
    simp [Except.map, htemp]

/-- **What is read after saving** is the snapshot that was written, and saving
tells how many entries there are in it. -/
theorem read_of_save (hpath : c.snapshotPath? = some path) {n : Nat}
    (h : c.save fs = (.ok n, fs')) :
    n = c.entries.size ∧ fs'.read path = .ok c.snapshotOctets := by
  obtain ⟨-, l, hl, hfree⟩ := (save_isOk_iff hpath).mp ⟨n, fs', h⟩
  obtain ⟨fs₁, hputs, hrun⟩ := run_savePlan c hl hfree
  rw [save_eq hpath, hrun, run] at h
  cases happly : fs₁.apply (.rename (temporary path) path) with
  | error e =>
      rw [happly] at h
      exact absurd h (by simp [Except.map])
  | ok fs₂ =>
      rw [happly] at h
      obtain ⟨hn, rfl⟩ := Prod.mk.inj h
      exact ⟨(Except.ok.inj hn).symm,
        read_of_rename (hputs.sameDirectories.locate hl) hputs.at_self happly⟩

/-! ## §3. Crashes. -/

/-- What may have been done of the plan when a crash stops it. -/
theorem interrupted_savePlan {cut : List Write} (h : Plan.Interrupted (c.savePlan path) cut) :
    cut = [] ∨ cut = [.create (temporary path)]
      ∨ (∃ n, cut = [.create (temporary path),
          .append (temporary path) (c.snapshotOctets.take n)])
      ∨ cut = c.savePlan path := by
  rw [savePlan_eq] at h ⊢
  cases h with
  | nothing => exact .inl rfl
  | step w h =>
      cases h with
      | nothing => exact .inr (.inl rfl)
      | part path bytes n plan => exact .inr (.inr (.inl ⟨n, rfl⟩))
      | step w h =>
          cases h with
          | nothing =>
              exact .inr (.inr (.inl ⟨c.snapshotOctets.length, by rw [List.take_length]⟩))
          | step w h =>
              cases h with
              | nothing => exact .inr (.inr (.inr rfl))

/-- Whatever a crash lets through of saving, the snapshot is the old one or the
new one, as a whole. -/
def SavesAtomically (c : Cache) (fs : FileSystem) (path : String) : Prop :=
  ∀ cut, Plan.Interrupted (c.savePlan path) cut →
    (fs.run cut).2.content? path = fs.content? path
      ∨ (fs.run cut).2.content? path = some c.snapshotOctets

/-- The temporary file is another one than the snapshot, unless they have one
path. -/
theorem temporary_apart (h : ¬ (temporary path = path ∧ fs.NamesFile path))
    (hl : fs.locate (temporary path) = .ok l) (hfree : fs.at? l ≠ some .directory) :
    fs.locate path ≠ .ok l := by
  intro hpath
  exact h ⟨withExtension_eq_self (by decide) hpath hl hfree, l, hpath, hfree⟩

/-- Writing the temporary file leaves the snapshot alone. -/
theorem content?_of_puts {bytes : Bytes} (hapart : fs.locate path ≠ .ok l)
    (hputs : Puts fs fs' l bytes) : fs'.content? path = fs.content? path := by
  refine content?_eq_of_agree hputs.sameDirectories fun l' hl' => ?_
  rw [hputs.at_eq, if_neg]
  rintro rfl
  exact hapart hl'

theorem savesAtomically_of_apart (h : ¬ (temporary path = path ∧ fs.NamesFile path)) :
    c.SavesAtomically fs path := by
  intro cut hcut
  by_cases htemp : fs.NamesFile (temporary path)
  · obtain ⟨l, hl, hfree⟩ := htemp
    have hapart := temporary_apart h hl hfree
    -- Up to the renaming all writes go to the temporary file.
    rcases interrupted_savePlan hcut with rfl | rfl | ⟨n, rfl⟩ | rfl
    · exact .inl rfl
    · obtain ⟨fs', hputs, hrun⟩ := run_create hl hfree
      rw [hrun]
      exact .inl (content?_of_puts hapart hputs)
    · obtain ⟨fs', hputs, hrun⟩ := run_create_append hl hfree (c.snapshotOctets.take n)
      rw [hrun]
      exact .inl (content?_of_puts hapart hputs)
    · obtain ⟨fs', hputs, hrun⟩ := run_savePlan c hl hfree
      rw [hrun, run]
      cases happly : fs'.apply (.rename (temporary path) path) with
      | error e => exact .inl (content?_of_puts hapart hputs)
      | ok fs'' =>
          have hread := read_of_rename (hputs.sameDirectories.locate hl) hputs.at_self happly
          exact .inr (content?_eq_some_iff.mpr hread)
  · -- Without a temporary file nothing is written at all.
    obtain ⟨e, hrun⟩ := run_create_of_not_namesFile htemp
    rcases interrupted_savePlan hcut with rfl | rfl | ⟨n, rfl⟩ | rfl
    · exact .inl rfl
    · exact .inl (by rw [hrun])
    · exact .inl (by rw [hrun])
    · exact .inl (by rw [savePlan_eq, hrun])

/-- A snapshot has its two brackets at least. -/
theorem two_le_length_snapshotOctets (c : Cache) : 2 ≤ c.snapshotOctets.length := by
  have hoctets := Utf8.length_le_octets (Json.array (c.storedEntries.map toJson)).chars
  have hchars : 2 ≤ (Json.array (c.storedEntries.map toJson)).chars.length := by
    cases c.storedEntries with
    | nil => exact Nat.le_refl 2
    | cons s entries => simp [Json.chars, Json.itemChars, toJson, Json.memberChars]
  rw [snapshotOctets, snapshotText, Utf8.encode_eq, Json.print, String.toList_ofList]
  exact Nat.le_trans hchars hoctets

/-- **A crash can tear exactly the snapshots that are their own temporary
files.**

The device has no faults here.  On one that fails or fills up, the last octets of
a snapshot are written as its file is closed, and nobody is told that they were
not: saving goes on, puts the cut-off file in the snapshot's place and reports a
success, with no crash at all. -/
theorem savesAtomically_iff (c : Cache) (fs : FileSystem) (path : String) :
    c.SavesAtomically fs path ↔ ¬ (Path.withExtension path "tmp" = path ∧ fs.NamesFile path) := by
  refine ⟨?_, savesAtomically_of_apart⟩
  rintro hatomic ⟨hsame, l, hl, hfree⟩
  have hlength := two_le_length_snapshotOctets c
  have hplan := savePlan_eq c path
  rw [show temporary path = path from hsame] at hplan
  -- The file is emptied first, so it has to have been empty before; but then it
  -- may not hold the first octet of the new snapshot alone.
  obtain ⟨fs₁, hputs₁, hrun₁⟩ := run_create hl hfree
  obtain ⟨fs₂, hputs₂, hrun₂⟩ := run_create_append hl hfree (c.snapshotOctets.take 1)
  have hempty : (fs.run [.create path]).2.content? path = some [] := by
    rw [hrun₁, content?_eq_some_iff]
    exact read_eq_ok_iff.mpr ⟨l, hputs₁.sameDirectories.locate hl, hputs₁.at_self⟩
  have hpart : (fs.run [.create path, .append path (c.snapshotOctets.take 1)]).2.content? path
      = some (c.snapshotOctets.take 1) := by
    rw [hrun₂, content?_eq_some_iff]
    exact read_eq_ok_iff.mpr ⟨l, hputs₂.sameDirectories.locate hl, hputs₂.at_self⟩
  have hcreated := hatomic [.create path] (by rw [hplan]; exact .step _ (.nothing _))
  have hbegun := hatomic [.create path, .append path (c.snapshotOctets.take 1)]
    (by rw [hplan]; exact .step _ (.part _ _ _ _))
  rw [hempty] at hcreated
  rw [hpart] at hbegun
  have hlength₁ : (c.snapshotOctets.take 1).length = 1 := by
    rw [List.length_take]
    omega
  rcases hcreated with hold | hnew
  · rw [← hold] at hbegun
    rcases hbegun with hnil | hnew
    · rw [Option.some.inj hnil] at hlength₁
      exact absurd hlength₁ (by decide)
    · rw [Option.some.inj hnew] at hlength₁
      omega
  · rw [← Option.some.inj hnew] at hlength
    exact absurd hlength (by decide)

/-- A snapshot whose name ends in `.tmp` is emptied before it is written, and
what was in it is lost if a crash comes then. -/
theorem emptied_snapshot :
    let old : StoredEntry := ⟨⟨"page", [], none⟩, 200, [], Utf8.encode "hello", 1000⟩
    let fs := FileSystem.empty.addFile "cache.tmp" (Utf8.encode (snapshotText [old]))
    ¬ (Cache.new true 0 10 (some "cache.tmp")).SavesAtomically fs "cache.tmp" := by
  intro old fs h
  have hcreated := h [.create "cache.tmp"] (.step _ (.nothing _))
  revert hcreated
  decide +kernel

end Cache

end Switchyard
