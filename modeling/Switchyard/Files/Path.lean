/-
  Switchyard.Files.Path
  ─────────────────────
  File paths as texts: joining two of them, and giving the file that a path
  names another extension.
-/
import Switchyard.Text.Split

namespace Switchyard.Path

/-- `path` seen from `base`: an absolute path is taken as it is. -/
def join (base path : String) : String :=
  if path.toList.head? = some '/' ∨ base = "" then path
  else if base.toList.getLast? = some '/' then base ++ path
  else base ++ "/" ++ path

/-- The characters of a path without the slashes and single dots that follow
its last component. -/
def dropTrailing (cs : List Char) : List Char :=
  go cs.reverse |>.reverse
where
  /-- Works on the reversed path. -/
  go : List Char → List Char
    | '/' :: cs => go cs
    | '.' :: '/' :: cs => go ('/' :: cs)
    | cs => cs

/-- What stands in a path before its last component, and the component if it
is a name. -/
def cutName (path : String) : List Char × Option (List Char) :=
  let cs := dropTrailing path.toList
  let (folder, name) := match Text.cutLast? '/' cs with
    | some (folder, name) => (folder ++ ['/'], name)
    | none => ([], cs)
  (folder, if name = [] ∨ name = ['.'] ∨ name = ['.', '.'] then none else some name)

/-- The name of the file that a path leads to. -/
def fileName? (path : String) : Option String := (cutName path).2.map String.ofList

/-- A file name without its extension: what stands before its last dot, if
there is anything before it. -/
def stem (name : List Char) : List Char :=
  match Text.cutLast? '.' name with
  | some (before@(_ :: _), _) => before
  | _ => name

/-- The path with the extension of its file name exchanged for another one, or
added if there is none.  A path without a file name stays as it is.  A name
such as `..c` has none either once its extension is taken off; then the path
is that of the directory above. -/
def withExtension (path extension : String) : String :=
  match cutName path with
  | (_, none) => path
  | (folder, some name) =>
      if stem name = ['.'] ∧ dropTrailing path.toList = path.toList then
        String.ofList (folder ++ ['.', '.'])
      else String.ofList (folder ++ stem name) ++ "." ++ extension

end Switchyard.Path
