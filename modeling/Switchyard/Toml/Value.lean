/-
  Switchyard.Toml.Value
  ─────────────────────
  The values of a TOML document.  No setting is a float or a date, so of those
  only the kind is kept.
-/

namespace Switchyard.Toml

inductive Value where
  | text (s : String)
  | integer (n : Int)
  | float
  | boolean (b : Bool)
  | dateTime
  | array (items : List Value)
  /-- The entries of a table, no key twice. -/
  | table (entries : List (String × Value))
  deriving Inhabited, Repr

end Switchyard.Toml
