/-
  Switchyard.Proofs.Files.Writing
  ───────────────────────────────
  What each write does to the files.  No write makes or removes a directory,
  so a path leads to the same location before and after; what stands there
  changes at the locations that the write is about and nowhere else.

      SameDirectories — paths lead to the same locations
      Puts, Moves     — all that a write changes
      content?        — the content of the file that a path leads to

  Main statements:

      apply_create_isOk_iff   — when a file can be made
      apply_append_of_file    — adding to a file that is there
      apply_rename_isOk_iff   — when a file can be moved
      run_sameDirectories     — no plan of writes makes or removes a directory
      content?_eq_of_agree    — what is read depends on one location only
-/
import Switchyard.Proofs.Files.Walking

namespace Switchyard.FileSystem

variable {fs fs' : FileSystem} {l target source : Location} {path old new : String}
  {content bytes : Bytes}

/-! ## §1. Directories. -/

/-- The two file systems have the same directories. -/
def SameDirectories (fs fs' : FileSystem) : Prop :=
  ∀ l, fs'.at? l = some .directory ↔ fs.at? l = some .directory

theorem SameDirectories.refl (fs : FileSystem) : SameDirectories fs fs := fun _ => Iff.rfl

theorem SameDirectories.trans {fs'' : FileSystem} (h : SameDirectories fs fs')
    (h' : SameDirectories fs' fs'') : SameDirectories fs fs'' :=
  fun l => (h' l).trans (h l)

theorem SameDirectories.symm (h : SameDirectories fs fs') : SameDirectories fs' fs :=
  fun l => (h l).symm

theorem SameDirectories.walk {here : Location} {names : List String}
    (h : SameDirectories fs fs') (hl : fs.walk here names = .ok l) :
    fs'.walk here names = .ok l := by
  induction names generalizing here with
  | nil => exact hl
  | cons name names ih =>
      obtain ⟨hdir, next, hnext, hl⟩ := walk_cons_eq_ok_iff.mp hl
      exact walk_cons_eq_ok_iff.mpr ⟨(h here).mpr hdir, next, hnext, ih hl⟩

/-- Whether a path can be followed at all depends on its text only, and where it
leads on the directories. -/
theorem SameDirectories.locate (h : SameDirectories fs fs') (hl : fs.locate path = .ok l) :
    fs'.locate path = .ok l := by
  obtain ⟨hpath, hwalk⟩ := locate_eq_ok_iff.mp hl
  exact locate_eq_ok_iff.mpr ⟨hpath, h.walk hwalk⟩

theorem SameDirectories.namesFile (h : SameDirectories fs fs') (hpath : fs.NamesFile path) :
    fs'.NamesFile path := by
  obtain ⟨l, hl, hfile⟩ := hpath
  exact ⟨l, h.locate hl, fun hdir => hfile ((h l).mp hdir)⟩

/-! ## §2. Reading. -/

/-- The content of the file that a path leads to, if there is one. -/
def content? (fs : FileSystem) (path : String) : Option Bytes := (fs.read path).toOption

theorem read_eq_ok_iff :
    fs.read path = .ok content ↔ ∃ l, fs.locate path = .ok l ∧ fs.at? l = some (.file content) := by
  constructor
  · intro h
    obtain ⟨l, hl, h⟩ := of_bind_eq_ok h
    refine ⟨l, hl, ?_⟩
    split at h
    · next c hat =>
      obtain rfl := Except.ok.inj h
      exact hat
    · exact absurd h (by simp)
    · exact absurd h (by simp)
  · rintro ⟨l, hl, hat⟩
    simp only [read, hl, bind, Except.bind, hat]
    rfl

theorem content?_eq_some_iff : fs.content? path = some content ↔ fs.read path = .ok content := by
  rw [content?]
  cases fs.read path with
  | error e => simp [Except.toOption]
  | ok c => simp [Except.toOption]

/-- **What is read depends on one location only**, while the directories stay. -/
theorem content?_eq_of_agree (h : SameDirectories fs fs')
    (hat : ∀ l, fs.locate path = .ok l → fs'.at? l = fs.at? l) :
    fs'.content? path = fs.content? path := by
  apply Option.ext
  intro c
  rw [content?_eq_some_iff, content?_eq_some_iff, read_eq_ok_iff, read_eq_ok_iff]
  constructor
  · rintro ⟨l, hl, hc⟩
    have hl' := h.symm.locate hl
    exact ⟨l, hl', (hat l hl').symm.trans hc⟩
  · rintro ⟨l, hl, hc⟩
    exact ⟨l, h.locate hl, (hat l hl).trans hc⟩

theorem pathExists_of_read (h : fs.read path = .ok content) : fs.pathExists path = true := by
  obtain ⟨l, hl, hat⟩ := read_eq_ok_iff.mp h
  simp only [pathExists, hl, hat]
  rfl

theorem namesFile_of_read (h : fs.read path = .ok content) : fs.NamesFile path := by
  obtain ⟨l, hl, hat⟩ := read_eq_ok_iff.mp h
  exact ⟨l, hl, by rw [hat]; simp⟩

/-! ## §3. Putting a file somewhere. -/

/-- `fs'` is `fs` with a file at a location where no directory was. -/
structure Puts (fs fs' : FileSystem) (l : Location) (content : Bytes) : Prop where
  free : fs.at? l ≠ some .directory
  at_eq : ∀ l', fs'.at? l' = if l' = l then some (.file content) else fs.at? l'

theorem Puts.at_self (h : Puts fs fs' l content) : fs'.at? l = some (.file content) := by
  rw [h.at_eq, if_pos rfl]

theorem Puts.sameDirectories (h : Puts fs fs' l content) : SameDirectories fs fs' := by
  intro l'
  rw [h.at_eq]
  by_cases hl : l' = l
  · subst hl
    simp [h.free]
  · rw [if_neg hl]

/-- Two files put in one place: the second counts. -/
theorem Puts.trans {fs'' : FileSystem} (h : Puts fs fs' l bytes) (h' : Puts fs' fs'' l content) :
    Puts fs fs'' l content where
  free := h.free
  at_eq := fun l' => by
    rw [h'.at_eq, h.at_eq]
    by_cases hl : l' = l <;> simp [hl]

theorem putFile_puts (hfree : fs.at? l ≠ some .directory) (content : Bytes) :
    ∃ fs', fs.putFile l content = .ok fs' ∧ Puts fs fs' l content := by
  refine ⟨⟨fs.nodes.insert l (.file content)⟩, ?_, hfree, ?_⟩
  · unfold putFile
    split
    · next hdir => exact absurd hdir hfree
    · rfl
  · -- The root is a directory, so this is not the root.
    have hroot : l ≠ [] := by
      rintro rfl
      exact hfree rfl
    intro l'
    cases l' with
    | nil =>
        rw [if_neg (Ne.symm hroot)]
        rfl
    | cons name names =>
        show (fs.nodes.insert l (.file content)).get? (name :: names) = _
        rw [Table.get?_insert]
        rfl

theorem not_directory_of_putFile (h : fs.putFile l content = .ok fs') :
    fs.at? l ≠ some .directory := by
  intro hdir
  rw [putFile, hdir] at h
  exact absurd h (by simp)

theorem puts_of_putFile (h : fs.putFile l content = .ok fs') : Puts fs fs' l content := by
  obtain ⟨fs'', h', hputs⟩ := putFile_puts (not_directory_of_putFile h) content
  obtain rfl : fs' = fs'' := Except.ok.inj (h.symm.trans h')
  exact hputs

theorem apply_create_of_locate (hl : fs.locate path = .ok l) :
    fs.apply (.create path) = fs.putFile l [] := by
  rw [FileSystem.apply, hl]
  rfl

/-- **A file can be made where a path leads to no directory.** -/
theorem apply_create_isOk_iff :
    (∃ fs', fs.apply (.create path) = .ok fs') ↔ fs.NamesFile path := by
  constructor
  · rintro ⟨fs', h⟩
    obtain ⟨l, hl, hput⟩ := of_bind_eq_ok h
    exact ⟨l, hl, not_directory_of_putFile hput⟩
  · rintro ⟨l, hl, hfree⟩
    obtain ⟨fs', h, -⟩ := putFile_puts hfree []
    exact ⟨fs', (apply_create_of_locate hl).trans h⟩

theorem puts_of_create (hl : fs.locate path = .ok l) (h : fs.apply (.create path) = .ok fs') :
    Puts fs fs' l [] := by
  rw [apply_create_of_locate hl] at h
  exact puts_of_putFile h

/-- **Adding to a file** that is there never fails. -/
theorem apply_append_of_file (hl : fs.locate path = .ok l) (hat : fs.at? l = some (.file content))
    (bytes : Bytes) :
    ∃ fs', fs.apply (.append path bytes) = .ok fs' ∧ Puts fs fs' l (content ++ bytes) := by
  have hread : fs.read path = .ok content := read_eq_ok_iff.mpr ⟨l, hl, hat⟩
  have hfree : fs.at? l ≠ some .directory := by
    rw [hat]
    simp
  obtain ⟨fs', h, hputs⟩ := putFile_puts hfree (content ++ bytes)
  refine ⟨fs', ?_, hputs⟩
  rw [FileSystem.apply, hread, hl]
  exact h

/-! ## §4. Moving a file. -/

/-- `fs'` is `fs` with a file moved from `source` to `target`, where no
directory was. -/
structure Moves (fs fs' : FileSystem) (source target : Location) (content : Bytes) : Prop where
  free : fs.at? target ≠ some .directory
  moved : fs.at? source = some (.file content)
  at_eq : ∀ l, fs'.at? l
    = if l = target then some (.file content) else if l = source then none else fs.at? l

theorem Moves.sameDirectories (h : Moves fs fs' source target content) :
    SameDirectories fs fs' := by
  intro l
  rw [h.at_eq]
  by_cases htarget : l = target
  · subst htarget
    simp [h.free]
  rw [if_neg htarget]
  by_cases hsource : l = source
  · subst hsource
    simp [h.moved]
  rw [if_neg hsource]

theorem apply_rename_of_file (hl : fs.locate old = .ok source)
    (hat : fs.at? source = some (.file content)) (htarget : fs.locateName new = .ok target)
    (hfree : fs.at? target ≠ some .directory) :
    ∃ fs', fs.apply (.rename old new) = .ok fs' ∧ Moves fs fs' source target content := by
  have hread : fs.read old = .ok content := read_eq_ok_iff.mpr ⟨source, hl, hat⟩
  obtain ⟨moved, hput, hputs⟩ := putFile_puts hfree content
  have happly : fs.apply (.rename old new)
      = .ok (if source = target then moved else ⟨moved.nodes.erase source⟩) := by
    rw [FileSystem.apply, hread, hl, htarget]
    show (fs.putFile target content >>= _) = _
    rw [hput]
    rfl
  refine ⟨_, happly, hfree, hat, ?_⟩
  -- A file that is moved to where it is stays there.
  intro l
  by_cases hsame : source = target
  · rw [if_pos hsame, hputs.at_eq]
    by_cases hhere : l = target
    · rw [if_pos hhere, if_pos hhere]
    · rw [if_neg hhere, if_neg hhere, if_neg (by rw [hsame]; exact hhere)]
  · rw [if_neg hsame]
    have hsource : source ≠ [] := by
      rintro rfl
      exact absurd hat (by simp [at?])
    have herase : (⟨moved.nodes.erase source⟩ : FileSystem).at? l
        = if l = source then none else moved.at? l := by
      cases l with
      | nil =>
          rw [if_neg (Ne.symm hsource)]
          rfl
      | cons name names => exact Table.get?_erase _ _ _
    rw [herase, hputs.at_eq]
    by_cases hhere : l = target
    · rw [hhere, if_pos rfl, if_pos rfl, if_neg (Ne.symm hsame)]
    · rw [if_neg hhere, if_neg hhere]

theorem locateName_of_rename (h : fs.apply (.rename old new) = .ok fs') :
    ∃ target, fs.locateName new = .ok target ∧ fs.at? target ≠ some .directory := by
  obtain ⟨content, _, h⟩ := of_bind_eq_ok h
  obtain ⟨source, _, h⟩ := of_bind_eq_ok h
  obtain ⟨target, htarget, h⟩ := of_bind_eq_ok h
  obtain ⟨moved, hput, _⟩ := of_bind_eq_ok h
  exact ⟨target, htarget, not_directory_of_putFile hput⟩

/-- **A file can be moved to where a path leads to no directory.** -/
theorem apply_rename_isOk_iff (hl : fs.locate old = .ok source)
    (hat : fs.at? source = some (.file content)) :
    (∃ fs', fs.apply (.rename old new) = .ok fs') ↔ fs.NamesFile new := by
  constructor
  · rintro ⟨fs', h⟩
    obtain ⟨target, htarget, hfree⟩ := locateName_of_rename h
    exact ⟨target, locate_of_locateName htarget, hfree⟩
  · rintro ⟨target, htarget, hfree⟩
    obtain ⟨fs', h, -⟩ := apply_rename_of_file hl hat (locateName_of_locate htarget hfree) hfree
    exact ⟨fs', h⟩

/-- A file that was moved is read where it was moved to. -/
theorem read_of_rename (hl : fs.locate old = .ok source)
    (hat : fs.at? source = some (.file content)) (h : fs.apply (.rename old new) = .ok fs') :
    fs'.read new = .ok content := by
  obtain ⟨target, htarget, hfree⟩ := locateName_of_rename h
  obtain ⟨fs'', h', hmoves⟩ := apply_rename_of_file hl hat htarget hfree
  obtain rfl : fs' = fs'' := Except.ok.inj (h.symm.trans h')
  have hnew := hmoves.sameDirectories.locate (locate_of_locateName htarget)
  exact read_eq_ok_iff.mpr ⟨target, hnew, by rw [hmoves.at_eq, if_pos rfl]⟩

/-! ## §5. Plans. -/

theorem apply_sameDirectories {w : Write} (h : fs.apply w = .ok fs') : SameDirectories fs fs' := by
  cases w with
  | create path =>
      obtain ⟨l, hl, -⟩ := of_bind_eq_ok h
      exact (puts_of_create hl h).sameDirectories
  | append path bytes =>
      obtain ⟨content, -, h⟩ := of_bind_eq_ok h
      obtain ⟨l, -, hput⟩ := of_bind_eq_ok h
      exact (puts_of_putFile hput).sameDirectories
  | rename old new =>
      obtain ⟨target, htarget, hfree⟩ := locateName_of_rename h
      obtain ⟨content, hread, -⟩ := of_bind_eq_ok h
      obtain ⟨source, hl, hat⟩ := read_eq_ok_iff.mp hread
      obtain ⟨fs'', h', hmoves⟩ := apply_rename_of_file hl hat htarget hfree
      obtain rfl : fs' = fs'' := Except.ok.inj (h.symm.trans h')
      exact hmoves.sameDirectories

/-- **No plan of writes makes or removes a directory**, however far it gets. -/
theorem run_sameDirectories (fs : FileSystem) (plan : List Write) :
    SameDirectories fs (fs.run plan).2 := by
  induction plan generalizing fs with
  | nil => exact .refl fs
  | cons w plan ih =>
      rw [run]
      cases happly : fs.apply w with
      | error e => exact .refl fs
      | ok fs' => exact (apply_sameDirectories happly).trans (ih fs')

end Switchyard.FileSystem
