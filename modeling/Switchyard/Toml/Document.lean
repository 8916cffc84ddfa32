/-
  Switchyard.Toml.Document
  ────────────────────────
  Whole TOML documents: values that hold others, and the lines that set keys
  and begin tables.
-/
import Switchyard.Toml.Scalar
import Switchyard.Toml.Tree

namespace Switchyard.Toml

open Text (Parser)
open Text.Parser

/-! ## §1. Arrays and inline tables. -/

/-- The items of an array and its end; a comma may stand behind the last. -/
def arrayItems (item : Parser Value) : Nat → Parser (List Value)
  | 0 => failure
  | fuel + 1 => do
      bounded trivia
      match ← attempt (char ']') with
      | some _ => return []
      | none =>
          let v ← item
          bounded trivia
          match ← next with
          | ']' => return [v]
          | ',' => return v :: (← arrayItems item fuel)
          | _ => failure

/-- A key, an equals sign and a value. -/
def keyValue (item : Parser Value) : Parser ((List String × String) × Value) := do
  let k ← key
  spaces
  char '='
  spaces
  return (k, ← item)

/-- The entries of an inline table from one on, and its end. -/
def inlineEntries (item : Parser Value) : Nat → Node → Parser Node
  | 0, _ => failure
  | fuel + 1, table => do
      let ((path, key), v) ← keyValue item
      let some table := Node.set [] path key v table | failure
      spaces
      match ← next with
      | '\x7d' => return table
      | ',' => inlineEntries item fuel table
      | _ => failure

/-- An inline table behind its opening brace. -/
def inlineTable (item : Parser Value) : Parser Value := do
  spaces
  match ← attempt (char '\x7d') with
  | some _ => return .table []
  | none =>
      let table ← bounded (inlineEntries item · .root)
      return table.toValue

/-- A value with at most so many arrays and inline tables around its inmost. -/
def value : Nat → Parser Value
  | 0 => scalar
  | depth + 1 => do
      match ← peek? with
      | some '[' =>
          char '['
          return .array (← bounded (arrayItems (value depth)))
      | some '\x7b' =>
          char '\x7b'
          inlineTable (value depth)
      | _ => scalar

/-! ## §2. Lines. -/

/-- A document as far as it is read, and the table that keys go to. -/
structure Draft where
  root : Node
  here : List String

/-- A line with a header. -/
def header (d : Draft) : Parser Draft := do
  char '['
  match ← attempt (char '[') with
  | some _ =>
      let (path, last) ← key
      chars [']', ']']
      let some root := Node.alter false (Node.openArrayTable last) path d.root | failure
      return ⟨root, path ++ [last]⟩
  | none =>
      let (path, last) ← key
      char ']'
      let some root := Node.alter false (Node.openTable last) path d.root | failure
      return ⟨root, path ++ [last]⟩

/-- A line that sets a key. -/
def setting (d : Draft) : Parser Draft := do
  let ((path, last), v) ← keyValue (value maxDepth)
  let some root := Node.set d.here path last v d.root | failure
  return { d with root }

/-- The lines of a document. -/
def lines : Nat → Draft → Parser Draft
  | 0, _ => failure
  | fuel + 1, d => do
      spaces
      match ← peek? with
      | none => return d
      | some '[' =>
          let d ← header d
          restOfLine
          lines fuel d
      | some c =>
          if c = '#' ∨ c = '\n' ∨ c = '\r' then
            restOfLine
            lines fuel d
          else
            let d ← setting d
            restOfLine
            lines fuel d

/-- The table that a document's text spells, after a byte order mark if there
is one. -/
def parse? (text : String) : Option Value :=
  let document : Parser Draft := do
    let _ ← attempt (char '\uFEFF')
    bounded (lines · ⟨.root, []⟩)
  (document.run? text).map fun d => d.root.toValue

end Switchyard.Toml
