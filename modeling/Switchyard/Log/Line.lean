/-
  Switchyard.Log.Line
  ───────────────────
  Events as lines of a log, in either format.
-/
import Switchyard.Config.Basic
import Switchyard.Json.Value
import Switchyard.Log.Event

namespace Switchyard.Event

/-- Level, message and fields as one line of text. -/
def prettyLine (e : Event) : String :=
  e.level.name ++ " " ++ e.message
    ++ String.join (e.fields.map fun (name, value) => s!" {name}={value}")

/-- The event as a JSON object. -/
def jsonLine (e : Event) : String :=
  let fields := ("message", e.message) :: e.fields
  (Json.object [("level", .text e.level.name),
    ("fields", .object (fields.map fun (name, value) => (name, .text value)))]).print

/-- The event's line in a log of the given format. -/
def line (e : Event) : LogFormat → String
  | .pretty => e.prettyLine
  | .json => e.jsonLine

end Switchyard.Event
