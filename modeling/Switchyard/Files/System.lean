/-
  Switchyard.Files.System
  ───────────────────────
  A file system as a value: files and directories by location.  Paths are
  resolved from the root, component by component, and every way in which that
  can fail is a `FileError`.

  `FileSystem.run` carries out a plan of writes and stops at the first that
  fails.  A crash can leave any part of a plan undone (`Plan.Interrupted`), so
  what holds after every interrupted plan holds after a crash.
-/
import Switchyard.Files.Path
import Switchyard.Table
import Switchyard.Text.Utf8

namespace Switchyard

/-! ## §1. Errors. -/

inductive FileError where
  | notFound
  | isADirectory
  | notADirectory
  | nameTooLong
  /-- A directory that is in use cannot be replaced. -/
  | busy
  /-- The path holds a NUL character. -/
  | nulInPath
  /-- The content is not UTF-8. -/
  | notText
  deriving DecidableEq, Repr, Inhabited

def FileError.message : FileError → String
  | .notFound => "No such file or directory (os error 2)"
  | .isADirectory => "Is a directory (os error 21)"
  | .notADirectory => "Not a directory (os error 20)"
  | .nameTooLong => "File name too long (os error 36)"
  | .busy => "Device or resource busy (os error 16)"
  | .nulInPath => "file name contained an unexpected NUL byte"
  | .notText => "stream did not contain valid UTF-8"

/-! ## §2. Contents and locations. -/

inductive FileNode where
  | file (content : Bytes)
  | directory
  deriving DecidableEq, Repr, Inhabited

/-- The names on the way from the root to a file. -/
abbrev Location := List String

/-- Files and directories by location.  The root is a directory at any time. -/
structure FileSystem where
  nodes : Table Location FileNode

namespace FileSystem

def empty : FileSystem := ⟨.empty⟩

instance : Inhabited FileSystem := ⟨empty⟩

/-- What stands at a location. -/
def at? (fs : FileSystem) : Location → Option FileNode
  | [] => some .directory
  | l => fs.nodes.get? l

def maxNameBytes : Nat := 255
def maxPathBytes : Nat := 4095

/-- Follows path components from the directory `here`.  Everything but the
last component has to be a directory that exists. -/
def walk (fs : FileSystem) (here : Location) : List String → Except FileError Location
  | [] => .ok here
  | name :: names =>
      if fs.at? here = none then .error .notFound
      else if fs.at? here ≠ some .directory then .error .notADirectory
      else if name = "" ∨ name = "." then fs.walk here names
      else if name = ".." then fs.walk here.dropLast names
      else if maxNameBytes < name.utf8ByteSize then .error .nameTooLong
      else fs.walk (here ++ [name]) names

/-- The location that a path names. -/
def locate (fs : FileSystem) (path : String) : Except FileError Location :=
  if path.toList.contains '\x00' then .error .nulInPath
  else if path = "" then .error .notFound
  else if maxPathBytes < path.utf8ByteSize then .error .nameTooLong
  else fs.walk [] (Text.split '/' path)

/-! ## §3. Reading. -/

/-- The content of a file. -/
def read (fs : FileSystem) (path : String) : Except FileError Bytes := do
  let l ← fs.locate path
  match fs.at? l with
  | some (.file content) => return content
  | some .directory => .error .isADirectory
  | none => .error .notFound

/-- The content of a file as text. -/
def readText (fs : FileSystem) (path : String) : Except FileError String := do
  match Utf8.decode? (← fs.read path) with
  | some text => return text
  | none => .error .notText

/-- Whether there is a file or a directory. -/
def pathExists (fs : FileSystem) (path : String) : Bool :=
  match fs.locate path with
  | .ok l => (fs.at? l).isSome
  | .error _ => false

/-- The names in the directory at a location, in order. -/
def list (fs : FileSystem) (l : Location) : List String :=
  (fs.nodes.pairs.filterMap fun p =>
    if p.1.length = l.length + 1 ∧ p.1.dropLast = l then p.1.getLast? else none).mergeSort
      fun a b => a ≤ b

/-! ## §4. Plans of writes. -/

inductive Write where
  /-- Makes an empty file, or empties the file that is there. -/
  | create (path : String)
  /-- Adds octets at the end of a file. -/
  | append (path : String) (bytes : Bytes)
  /-- Gives a file another path, in the place of a file that is there. -/
  | rename (old new : String)
  deriving DecidableEq, Repr

/-- Puts a file at a location where no directory is. -/
def putFile (fs : FileSystem) (l : Location) (content : Bytes) : Except FileError FileSystem :=
  match fs.at? l with
  | some .directory => .error .isADirectory
  | _ => .ok ⟨fs.nodes.insert l (.file content)⟩

/-- The location that a file takes when it is given a path: the last component
has to be a name, and no slash may follow it. -/
def locateName (fs : FileSystem) (path : String) : Except FileError Location :=
  let names := Text.split '/' path
  match names.reverse.dropWhile (· = "") with
  | [] => .error .busy
  | name :: before => do
      let _ ← fs.walk [] (before.reverse ++ [""])
      if name = "." ∨ name = ".." then .error .busy
      else if names.getLast? = some "" then .error .notADirectory
      else fs.locate path

/-- Carries out one write.  The device has no faults and room for everything: what
the paths allow succeeds. -/
def apply (fs : FileSystem) : Write → Except FileError FileSystem
  | .create path => do fs.putFile (← fs.locate path) []
  | .append path bytes => do
      let content ← fs.read path
      fs.putFile (← fs.locate path) (content ++ bytes)
  | .rename old new => do
      let content ← fs.read old
      let source ← fs.locate old
      let target ← fs.locateName new
      let moved ← fs.putFile target content
      return if source = target then moved else ⟨moved.nodes.erase source⟩

/-- Carries out a plan.  What was done before the first write that fails stays. -/
def run (fs : FileSystem) : List Write → Except FileError Unit × FileSystem
  | [] => (.ok (), fs)
  | w :: ws =>
      match fs.apply w with
      | .ok fs' => fs'.run ws
      | .error e => (.error e, fs)

/-! ## §5. Setting up. -/

/-- The file system with a directory at a location and at every location on
the way to it. -/
def makeDirectories (fs : FileSystem) (here : Location) : List String → FileSystem
  | [] => fs
  | name :: names =>
      let next := here ++ [name]
      let fs := if fs.at? next = none then ⟨fs.nodes.insert next .directory⟩ else fs
      fs.makeDirectories next names

/-- The file system with a file at a path, and the directories on the way to
it.  A path that ends in a slash makes a directory. -/
def addFile (fs : FileSystem) (path : String) (content : Bytes) : FileSystem :=
  let names := (Text.split '/' path).filter fun n => n ≠ "" ∧ n ≠ "."
  if path.toList.getLast? = some '/' then fs.makeDirectories [] names
  else
    let fs := fs.makeDirectories [] names.dropLast
    ⟨fs.nodes.insert names (.file content)⟩

end FileSystem

/-- `cut` is what a crash may have let through of the plan: its first writes,
and of an append among them that comes last any first part. -/
inductive Plan.Interrupted : List FileSystem.Write → List FileSystem.Write → Prop
  | nothing (plan) : Interrupted plan []
  | part (path : String) (bytes : Bytes) (n : Nat) (plan) :
      Interrupted (.append path bytes :: plan) [.append path (bytes.take n)]
  | step (w) {plan cut} : Interrupted plan cut → Interrupted (w :: plan) (w :: cut)

end Switchyard
