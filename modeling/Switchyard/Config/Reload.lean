/-
  Switchyard.Config.Reload
  ────────────────────────
  Following a configuration file.  The directory of the file is watched, and
  each event that concerns the file has it read again.  A valid text that is
  not the one forwarded last is forwarded; everything else changes nothing, so
  an invalid version in between is forgotten.
-/
import Switchyard.Config.Document

namespace Switchyard

/-- What happened to a file. -/
inductive FileChange where
  | created
  | modified
  /-- It was removed, or only looked at. -/
  | other
  deriving DecidableEq, Repr, Inhabited

/-- What the watch on a directory reports. -/
inductive WatchReport where
  | event (change : FileChange) (paths : List String)
  /-- The watch itself failed. -/
  | failure
  deriving DecidableEq, Repr, Inhabited

/-- A watch on the file at a path, with the text forwarded last. -/
structure Reloader where
  path : String
  lastApplied : Option String
  deriving DecidableEq, Repr, Inhabited

namespace Reloader

/-- The watch at its start: the text that is in the file then counts as
forwarded. -/
def start (path : String) (content : Except FileError String) : Reloader :=
  ⟨path, content.toOption⟩

/-- Whether a report tells of a new version of the file. -/
def concerns (r : Reloader) : WatchReport → Bool
  | .event .created paths | .event .modified paths =>
      paths.any fun p => Path.fileName? p = Path.fileName? r.path
  | _ => false

/-- Takes note of the file's content: the configuration to forward, if there
is one.  Nothing is forwarded to a receiver that is gone. -/
def reload (r : Reloader) (received : Bool) (content : Except FileError String) :
    Option Config × Reloader :=
  match content with
  | .error _ => (none, r)
  | .ok text =>
      if r.lastApplied = some text then (none, r)
      else match Config.parse text with
        | .error _ => (none, r)
        | .ok config =>
            if received then (some config, { r with lastApplied := some text }) else (none, r)

/-- Answers a report, given the file's content at that time. -/
def onReport (r : Reloader) (received : Bool) (report : WatchReport)
    (content : Except FileError String) : Option Config × Reloader :=
  if r.concerns report then r.reload received content else (none, r)

end Reloader

end Switchyard
