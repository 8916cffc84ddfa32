/-
  Switchyard.Proofs.Files.Walking
  ───────────────────────────────
  Where paths lead.  A walk goes through directories only, so every location
  on the way to its end is one.  A path that ends in a slash, `.` or `..`
  leads to a directory; one that leads to anything else ends in a name, and
  two such paths with one folder lead to one location only if they are equal.

      enter     — one component of a path
      Grounded  — all locations above one are directories
      NamesFile — a path leads to a file, or to where there can be one

  Main statements:

      walk_concat           — the last component of a walk
      locateName_of_locate  — a file can be moved to where a path leads
      withExtension_eq_self — another extension leads elsewhere, if it is another
-/
import Switchyard.Files.System
import Switchyard.Proofs.Fallible
import Switchyard.Proofs.Text.Cuts

namespace Switchyard

variable {fs : FileSystem} {here l m : Location} {name : String} {names : List String}

namespace FileSystem

/-! ## §1. One component. -/

/-- A component that makes a location of its own. -/
def IsName (name : String) : Prop := name ≠ "" ∧ name ≠ "." ∧ name ≠ ".."

/-- Where one component leads from a directory. -/
def enter (here : Location) (name : String) : Option Location :=
  if name = "" ∨ name = "." then some here
  else if name = ".." then some here.dropLast
  else if maxNameBytes < name.utf8ByteSize then none
  else some (here ++ [name])

theorem enter_of_isName (h : IsName name) (hl : enter here name = some l) : l = here ++ [name] := by
  rw [enter, if_neg (by simp [h.1, h.2.1]), if_neg h.2.2] at hl
  split at hl
  · exact absurd hl (by simp)
  · exact (Option.some.inj hl).symm

theorem walk_nil_eq_ok_iff : fs.walk here [] = .ok l ↔ here = l := by
  rw [walk, Except.ok.injEq]

theorem walk_cons_eq_ok_iff :
    fs.walk here (name :: names) = .ok l
      ↔ fs.at? here = some .directory
        ∧ ∃ next, enter here name = some next ∧ fs.walk next names = .ok l := by
  rw [walk]
  by_cases hnone : fs.at? here = none
  · simp [hnone]
  by_cases hdir : fs.at? here = some .directory
  · rw [if_neg hnone, if_neg (not_not_intro hdir)]
    simp only [hdir, true_and, enter]
    by_cases hstay : name = "" ∨ name = "."
    · simp [hstay]
    by_cases hup : name = ".."
    · simp [hup]
    by_cases hlong : maxNameBytes < name.utf8ByteSize
    · simp [hstay, hup, hlong]
    · simp [hstay, hup, hlong]
  · simp [hnone, hdir]

theorem walk_append_eq_ok_iff {before : List String} :
    fs.walk here (before ++ names) = .ok l
      ↔ ∃ m, fs.walk here before = .ok m ∧ fs.walk m names = .ok l := by
  induction before generalizing here with
  | nil => simp [walk]
  | cons name before ih =>
      rw [List.cons_append, walk_cons_eq_ok_iff]
      simp only [walk_cons_eq_ok_iff, ih]
      constructor
      · rintro ⟨hdir, next, hnext, m, hm, hl⟩
        exact ⟨m, ⟨hdir, next, hnext, hm⟩, hl⟩
      · rintro ⟨m, ⟨hdir, next, hnext, hm⟩, hl⟩
        exact ⟨hdir, next, hnext, m, hm, hl⟩

/-- **The last component of a walk** leads on from a directory. -/
theorem walk_concat :
    fs.walk here (names ++ [name]) = .ok l
      ↔ ∃ m, fs.walk here names = .ok m ∧ fs.at? m = some .directory ∧ enter m name = some l := by
  rw [walk_append_eq_ok_iff]
  simp only [walk_cons_eq_ok_iff, walk_nil_eq_ok_iff, exists_eq_right]

/-! ## §2. The way to a location. -/

/-- All locations above this one are directories. -/
def Grounded (fs : FileSystem) (l : Location) : Prop :=
  ∀ above, above <+: l → above ≠ l → fs.at? above = some .directory

theorem grounded_root : fs.Grounded [] := by
  intro above habove hne
  exact absurd (List.prefix_nil.mp habove) hne

theorem Grounded.dropLast (h : fs.Grounded l) : fs.at? l.dropLast = some .directory := by
  by_cases hl : l = []
  · subst hl
    rfl
  · refine h _ (List.dropLast_prefix l) fun heq => ?_
    have hlength := congrArg List.length heq
    have hpos := List.length_pos_iff.mpr hl
    rw [List.length_dropLast] at hlength
    omega

theorem Grounded.enter (h : fs.Grounded here) (hdir : fs.at? here = some .directory)
    (hl : FileSystem.enter here name = some l) : fs.Grounded l := by
  -- Three kinds of names: one that stays, one that goes up, and one that goes down.
  unfold FileSystem.enter at hl
  split at hl
  · obtain rfl := Option.some.inj hl
    exact h
  split at hl
  · obtain rfl := Option.some.inj hl
    intro above habove _
    by_cases heq : above = here
    · rw [heq]
      exact hdir
    · exact h above (habove.trans (List.dropLast_prefix here)) heq
  split at hl
  · exact absurd hl (by simp)
  · obtain rfl := Option.some.inj hl
    intro above habove hne
    rcases List.prefix_concat_iff.mp habove with heq | habove
    · exact absurd heq hne
    · by_cases heq : above = here
      · rw [heq]
        exact hdir
      · exact h above habove heq

/-- A walk goes through directories only. -/
theorem Grounded.walk (h : fs.Grounded here) (hl : fs.walk here names = .ok l) : fs.Grounded l := by
  induction names generalizing here with
  | nil =>
      obtain rfl := Except.ok.inj hl
      exact h
  | cons name names ih =>
      obtain ⟨hdir, next, hnext, hl⟩ := walk_cons_eq_ok_iff.mp hl
      exact ih (h.enter hdir hnext) hl

/-- **What is not a directory is reached by a name**, from the directory that
the components before it lead to. -/
theorem isName_of_walk (hl : fs.walk [] (names ++ [name]) = .ok l)
    (hfile : fs.at? l ≠ some .directory) :
    IsName name ∧ ∃ m, fs.walk [] names = .ok m ∧ fs.at? m = some .directory ∧ l = m ++ [name] := by
  obtain ⟨m, hm, hdir, hlast⟩ := walk_concat.mp hl
  have hname : IsName name := by
    refine ⟨?_, ?_, ?_⟩
    · rintro rfl
      obtain rfl : m = l := Option.some.inj hlast
      exact hfile hdir
    · rintro rfl
      obtain rfl : m = l := Option.some.inj hlast
      exact hfile hdir
    · rintro rfl
      obtain rfl : m.dropLast = l := Option.some.inj hlast
      exact hfile (grounded_root.walk hm).dropLast
  exact ⟨hname, m, hm, hdir, enter_of_isName hname hlast⟩

/-! ## §3. Paths. -/

/-- The path leads to a file, or to a place in a directory where there is
nothing. -/
def NamesFile (fs : FileSystem) (path : String) : Prop :=
  ∃ l, fs.locate path = .ok l ∧ fs.at? l ≠ some .directory

/-- A text that can be followed as a path. -/
def IsPath (path : String) : Prop :=
  '\x00' ∉ path.toList ∧ path ≠ "" ∧ path.utf8ByteSize ≤ maxPathBytes

theorem locate_eq_ok_iff {path : String} :
    fs.locate path = .ok l ↔ IsPath path ∧ fs.walk [] (Text.split '/' path) = .ok l := by
  unfold locate IsPath
  by_cases hnul : '\x00' ∈ path.toList
  · simp [hnul]
  by_cases hempty : path = ""
  · simp [hempty]
  by_cases hlong : maxPathBytes < path.utf8ByteSize
  · simp [hnul, hempty, hlong, Nat.not_le.mpr hlong]
  · simp [hnul, hempty, hlong, Nat.not_lt.mp hlong]

theorem walk_of_locate {path : String} (h : fs.locate path = .ok l) :
    fs.walk [] (Text.split '/' path) = .ok l := (locate_eq_ok_iff.mp h).2

theorem exists_split_eq_concat (path : String) :
    ∃ before last, Text.split '/' path = before ++ [last] := by
  have hne : Text.split '/' path ≠ [] := by
    rw [Text.split]
    exact fun h => Text.pieces_ne_nil _ _ (List.map_eq_nil_iff.mp h)
  exact ⟨_, _, (List.dropLast_concat_getLast hne).symm⟩

/-- **A file can be given a path** that does not lead to a directory. -/
theorem locateName_of_locate {path : String} (h : fs.locate path = .ok l)
    (hfile : fs.at? l ≠ some .directory) : fs.locateName path = .ok l := by
  obtain ⟨before, last, hsplit⟩ := exists_split_eq_concat path
  have hwalk := walk_of_locate h
  rw [hsplit] at hwalk
  obtain ⟨hname, m, hm, hdir, -⟩ := isName_of_walk hwalk hfile
  -- The folder is followed on its own first, with an empty component behind it.
  have hfolder : fs.walk [] (before ++ [""]) = .ok m := walk_concat.mpr ⟨m, hm, hdir, rfl⟩
  have hlast : (before ++ [last]).reverse.dropWhile (· = "") = last :: before.reverse := by
    rw [List.reverse_append, List.reverse_singleton, List.singleton_append,
      List.dropWhile_cons_of_neg (by simpa using hname.1)]
  rw [locateName, hsplit]
  simp only [hlast, List.reverse_reverse, hfolder, List.getLast?_concat]
  show (if last = "." ∨ last = ".." then _ else if some last = some "" then _ else _) = _
  rw [if_neg (by simp [hname.2.1, hname.2.2]), if_neg (by simpa using hname.1)]
  exact h

theorem locate_of_locateName {path : String} (h : fs.locateName path = .ok l) :
    fs.locate path = .ok l := by
  unfold locateName at h
  dsimp only at h
  split at h
  · exact absurd h (by simp)
  · obtain ⟨_, _, h⟩ := of_bind_eq_ok h
    split at h
    · exact absurd h (by simp)
    split at h
    · exact absurd h (by simp)
    · exact h

end FileSystem

/-! ## §4. File names. -/

open Switchyard.Path

/-- Nothing is dropped from a path that ends neither in a slash nor in a
single dot behind one. -/
theorem Path.dropTrailing_eq_self_or (cs : List Char) :
    dropTrailing cs = cs ∨ ∃ before, cs = before ++ ['/'] ∨ cs = before ++ ['/', '.'] := by
  have hgo (rs : List Char) :
      dropTrailing.go rs = rs ∨ ∃ rest, rs = '/' :: rest ∨ rs = '.' :: '/' :: rest := by
    rw [dropTrailing.go.eq_def]
    split
    · exact .inr ⟨_, .inl rfl⟩
    · exact .inr ⟨_, .inr rfl⟩
    · exact .inl rfl
  rcases hgo cs.reverse with h | ⟨rest, h | h⟩
  · exact .inl (by rw [dropTrailing, h, List.reverse_reverse])
  · exact .inr ⟨rest.reverse, .inl (by simpa using congrArg List.reverse h)⟩
  · exact .inr ⟨rest.reverse, .inr (by simpa using congrArg List.reverse h)⟩

/-- What cutting a path gives: the folder it begins with and the name behind
that, if it is one.  What is put in the place of the name is the last component
of the path again. -/
theorem Path.exists_cutName (path : String) :
    ∃ folder name before,
      cutName path
        = (folder, if name = [] ∨ name = ['.'] ∨ name = ['.', '.'] then none else some name)
        ∧ dropTrailing path.toList = folder ++ name
        ∧ '/' ∉ name
        ∧ ∀ other, '/' ∉ other → Text.pieces '/' (folder ++ other) = before ++ [other] := by
  cases hcut : Text.cutLast? '/' (dropTrailing path.toList) with
  | none =>
      have hname := Text.not_mem_of_cutLast?_eq_none hcut
      refine ⟨[], dropTrailing path.toList, [], ?_, rfl, hname, ?_⟩
      · simp only [cutName, hcut]
      · exact fun other hother => Text.pieces_of_not_mem hother
  | some cut =>
      obtain ⟨folder, name⟩ := cut
      obtain ⟨hcs, hname⟩ := Text.cutLast?_eq_some hcut
      refine ⟨folder ++ ['/'], name, Text.pieces '/' folder, ?_, by simpa using hcs, hname, ?_⟩
      · simp only [cutName, hcut]
      · intro other hother
        rw [List.append_assoc, List.singleton_append, Text.pieces_append_cons,
          Text.pieces_of_not_mem hother]

/-- The last component of a path with another extension, if it is a name. -/
theorem Path.stem_append {name extension : List Char} (hname : '/' ∉ name)
    (hext : '/' ∉ extension) : '/' ∉ stem name ++ '.' :: extension := by
  have hstem : ∀ c ∈ stem name, c ∈ name := by
    unfold stem
    split
    · next before b after hcut =>
      obtain ⟨heq, -⟩ := Text.cutLast?_eq_some hcut
      intro c hc
      rw [heq]
      exact List.mem_append_left _ hc
    · exact fun c hc => hc
  intro hmem
  rcases List.mem_append.mp hmem with hmem | hmem
  · exact hname (hstem _ hmem)
  · rcases List.mem_cons.mp hmem with hmem | hmem
    · exact absurd hmem (by decide)
    · exact hext hmem

namespace FileSystem

theorem split_of_pieces {path : String} {before : List (List Char)} {last : List Char}
    (h : Text.pieces '/' path.toList = before ++ [last]) :
    Text.split '/' path = before.map String.ofList ++ [String.ofList last] := by
  rw [Text.split, h, List.map_append]
  rfl

/-- A path that leads to no directory has nothing behind its name. -/
theorem dropTrailing_of_locate {path : String} (h : fs.locate path = .ok l)
    (hfile : fs.at? l ≠ some .directory) : dropTrailing path.toList = path.toList := by
  have hwalk := walk_of_locate h
  rcases dropTrailing_eq_self_or path.toList with heq | ⟨before, hcs | hcs⟩
  · exact heq
  · have hsplit := split_of_pieces (by rw [hcs, Text.pieces_append_cons]; rfl)
    rw [hsplit] at hwalk
    exact absurd rfl (isName_of_walk hwalk hfile).1.1
  · have hsplit := split_of_pieces (by rw [hcs, Text.pieces_append_cons]; rfl)
    rw [hsplit] at hwalk
    exact absurd rfl (isName_of_walk hwalk hfile).1.2.1

/-- Two paths with one folder that lead to one location without a directory
have one last component. -/
theorem last_eq_of_locate {path path' : String} {before : List (List Char)}
    {last last' : List Char} (hlast : Text.pieces '/' path.toList = before ++ [last])
    (hlast' : Text.pieces '/' path'.toList = before ++ [last'])
    (h : fs.locate path = .ok l) (h' : fs.locate path' = .ok l)
    (hfile : fs.at? l ≠ some .directory) : last = last' := by
  have hwalk := walk_of_locate h
  have hwalk' := walk_of_locate h'
  rw [split_of_pieces hlast] at hwalk
  rw [split_of_pieces hlast'] at hwalk'
  obtain ⟨-, m, hm, -, hl⟩ := isName_of_walk hwalk hfile
  obtain ⟨-, m', hm', -, hl'⟩ := isName_of_walk hwalk' hfile
  obtain rfl : m = m' := Except.ok.inj (hm.symm.trans hm')
  have hname := List.append_cancel_left (hl.symm.trans hl')
  exact String.ofList_injective (List.singleton_inj.mp hname)

/-- **Another extension leads elsewhere**: where a path and the path with the
extension lead to one location without a directory, they are one path. -/
theorem withExtension_eq_self {path extension : String} (hext : '/' ∉ extension.toList)
    (h : fs.locate path = .ok l) (h' : fs.locate (withExtension path extension) = .ok l)
    (hfile : fs.at? l ≠ some .directory) : withExtension path extension = path := by
  obtain ⟨folder, name, before, hcut, hdrop, hname, hbefore⟩ := exists_cutName path
  have hpath : path.toList = folder ++ name := (dropTrailing_of_locate h hfile).symm.trans hdrop
  have hlast : Text.pieces '/' path.toList = before ++ [name] := by
    rw [hpath]
    exact hbefore name hname
  -- A path without a name keeps its text; with a name only the last component
  -- differs, and that has to be the same one.
  by_cases hplain : name = [] ∨ name = ['.'] ∨ name = ['.', '.']
  · simp only [withExtension, hcut, if_pos hplain]
  by_cases hdots : stem name = ['.'] ∧ dropTrailing path.toList = path.toList
  · -- The path of the directory above leads to a directory.
    have heq : withExtension path extension = String.ofList (folder ++ ['.', '.']) := by
      simp only [withExtension, hcut, if_neg hplain, if_pos hdots]
    have hlast' : Text.pieces '/' (withExtension path extension).toList
        = before ++ [['.', '.']] := by
      rw [heq, String.toList_ofList]
      exact hbefore _ (by decide)
    exact absurd (.inr (.inr (last_eq_of_locate hlast hlast' h h' hfile))) hplain
  · have heq : withExtension path extension
        = String.ofList (folder ++ stem name) ++ "." ++ extension := by
      simp only [withExtension, hcut, if_neg hplain, if_neg hdots]
    have htext : (withExtension path extension).toList
        = folder ++ (stem name ++ '.' :: extension.toList) := by
      rw [heq]
      simp
    have hlast' : Text.pieces '/' (withExtension path extension).toList
        = before ++ [stem name ++ '.' :: extension.toList] := by
      rw [htext]
      exact hbefore _ (stem_append hname hext)
    have hnames := last_eq_of_locate hlast hlast' h h' hfile
    apply String.toList_injective
    rw [htext, hpath, ← hnames]

end FileSystem

end Switchyard
