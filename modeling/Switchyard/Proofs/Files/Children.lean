/-
  Switchyard.Proofs.Files.Children
  ────────────────────────────────
  Files that stand directly in a directory.  A name that is joined to the path
  of a directory leads to what has this name there, and to nothing else.

      LeadsTo   — a path names a directory
      HasChild  — there is a file of a name in the directory that a path names

  Main statement:

      read_join_iff — reading a joined path is reading a child
-/
import Switchyard.Proofs.Files.Writing

namespace Switchyard.FileSystem

variable {fs : FileSystem} {here l : Location} {root name : String} {content : Bytes}

/-- A path names a directory.  The empty path is the current one. -/
def LeadsTo (fs : FileSystem) (path : String) (dir : Location) : Prop :=
  fs.walk [] (Text.split '/' path) = .ok dir ∧ fs.at? dir = some .directory

/-- There is a file of this name and content directly in the directory that the
root names, and its path is one that the system follows. -/
structure HasChild (fs : FileSystem) (root name : String) (content : Bytes) : Prop where
  isPath : IsPath (Path.join root name)
  isShort : name.utf8ByteSize ≤ maxNameBytes
  isThere : ∃ dir, fs.LeadsTo root dir ∧ fs.at? (dir ++ [name]) = some (.file content)

/-- Where a name leads to. -/
theorem enter_eq_some_iff (h : IsName name) :
    enter here name = some l ↔ name.utf8ByteSize ≤ maxNameBytes ∧ l = here ++ [name] := by
  rw [enter, if_neg (by simp [h.1, h.2.1]), if_neg h.2.2]
  by_cases hlong : maxNameBytes < name.utf8ByteSize
  · simp [hlong, Nat.not_le.mpr hlong]
  · simp [hlong, Nat.not_lt.mp hlong, eq_comm]

/-- A name that is joined to a path is its last component.  The components before
it are those of the path, but for an empty one at the end. -/
theorem split_join (h : '/' ∉ name.toList) :
    ∃ before, Text.split '/' (Path.join root name) = before ++ [name]
      ∧ (Text.split '/' root = before ∨ Text.split '/' root = before ++ [""]) := by
  have hhead : name.toList.head? ≠ some '/' := fun hh => h (List.mem_of_head? hh)
  have hlast : Text.pieces '/' name.toList = [name.toList] := Text.pieces_of_not_mem h
  -- Joining looks at the root: with nothing in it, with a slash at its end, or neither.
  by_cases hempty : root = ""
  · subst hempty
    have hjoin : Path.join "" name = name := if_pos (.inr rfl)
    refine ⟨[], ?_, .inr rfl⟩
    rw [hjoin, Text.split, hlast]
    simp
  by_cases hslash : root.toList.getLast? = some '/'
  · obtain ⟨folder, hfolder⟩ := List.getLast?_eq_some_iff.mp hslash
    have hjoin : Path.join root name = root ++ name := by
      rw [Path.join, if_neg (by simp [hhead, hempty]), if_pos hslash]
    refine ⟨(Text.pieces '/' folder).map String.ofList, ?_, .inr ?_⟩
    · rw [hjoin, Text.split, String.toList_append, hfolder, List.append_assoc,
        List.singleton_append, Text.pieces_append_cons, hlast]
      simp
    · rw [Text.split, hfolder, Text.pieces_append_cons]
      simp [Text.pieces]
  · have hjoin : Path.join root name = root ++ "/" ++ name := by
      rw [Path.join, if_neg (by simp [hhead, hempty]), if_neg hslash]
    have htext : (root ++ "/" ++ name).toList = root.toList ++ '/' :: name.toList := by simp
    refine ⟨Text.split '/' root, ?_, .inl rfl⟩
    rw [hjoin, Text.split, htext, Text.pieces_append_cons, hlast]
    simp [Text.split]

/-- **A joined path is followed to the directory, and on from there.** -/
theorem walk_join (h : '/' ∉ name.toList) :
    fs.walk [] (Text.split '/' (Path.join root name)) = .ok l
      ↔ ∃ dir, fs.LeadsTo root dir ∧ enter dir name = some l := by
  obtain ⟨before, hjoin, hroot⟩ := @split_join root name h
  rw [hjoin, walk_concat]
  unfold LeadsTo
  rcases hroot with hroot | hroot
  · rw [hroot]
    simp only [and_assoc]
  · -- An empty component behind the path asks for a directory and stays there.
    rw [hroot]
    simp only [walk_concat]
    constructor
    · rintro ⟨m, hm, hdir, hl⟩
      exact ⟨m, ⟨⟨m, hm, hdir, rfl⟩, hdir⟩, hl⟩
    · rintro ⟨dir, ⟨⟨m, hm, hdir, hstay⟩, -⟩, hl⟩
      obtain rfl : m = dir := Option.some.inj hstay
      exact ⟨m, hm, hdir, hl⟩

/-- **Reading a joined path is reading a child**, and the other way round. -/
theorem read_join_iff (hname : IsName name) (hslash : '/' ∉ name.toList) :
    fs.read (Path.join root name) = .ok content ↔ fs.HasChild root name content := by
  rw [read_eq_ok_iff]
  simp only [locate_eq_ok_iff, walk_join hslash, enter_eq_some_iff hname]
  constructor
  · rintro ⟨l, ⟨hpath, dir, hdir, hshort, rfl⟩, hat⟩
    exact ⟨hpath, hshort, dir, hdir, hat⟩
  · rintro ⟨hpath, hshort, dir, hdir, hat⟩
    exact ⟨dir ++ [name], ⟨hpath, dir, hdir, hshort, rfl⟩, hat⟩

end Switchyard.FileSystem
