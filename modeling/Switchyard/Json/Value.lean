/-
  Switchyard.Json.Value
  ─────────────────────
  JSON values (RFC 8259) and their compact text.  An object keeps its members
  in the order given; `Json.ofMembers` puts them in the order of their keys.
-/

namespace Switchyard

inductive Json where
  | null
  | bool (b : Bool)
  | number (n : Int)
  | text (s : String)
  | array (items : List Json)
  | object (members : List (String × Json))
  deriving Inhabited, Repr

namespace Json

/-- A string, or `null` for no string. -/
def optionalText : Option String → Json
  | some s => .text s
  | none => .null

/-- An object with its members in the order of their keys. -/
def ofMembers (members : List (String × Json)) : Json :=
  .object (members.mergeSort fun a b => a.1 ≤ b.1)

/-! ## The text of a value. -/

/-- How a character stands in a string: quotes and backslashes behind a
backslash, the control characters by their short form or their number. -/
def escaped (c : Char) : List Char :=
  if c = '"' then ['\\', '"']
  else if c = '\\' then ['\\', '\\']
  else if c = '\x08' then ['\\', 'b']
  else if c = '\x0c' then ['\\', 'f']
  else if c = '\n' then ['\\', 'n']
  else if c = '\r' then ['\\', 'r']
  else if c = '\t' then ['\\', 't']
  else if c.toNat < 0x20 then
    ['\\', 'u', '0', '0', Nat.digitChar (c.toNat / 16), Nat.digitChar (c.toNat % 16)]
  else [c]

/-- A string in its quotes. -/
def quotedChars (s : String) : List Char := '"' :: s.toList.flatMap escaped ++ ['"']

/-- An integer in decimal digits. -/
def integerChars (n : Int) : List Char :=
  if n < 0 then '-' :: Nat.toDigits 10 n.natAbs else Nat.toDigits 10 n.natAbs

mutual

/-- The compact text of a value. -/
def chars : Json → List Char
  | .null => ['n', 'u', 'l', 'l']
  | .bool true => ['t', 'r', 'u', 'e']
  | .bool false => ['f', 'a', 'l', 's', 'e']
  | .number n => integerChars n
  | .text s => quotedChars s
  | .array items => '[' :: itemChars true items
  | .object members => '\x7b' :: memberChars true members

/-- The text of the items that are left in an array, and its end. -/
def itemChars (first : Bool) : List Json → List Char
  | [] => [']']
  | item :: items => (if first then [] else [',']) ++ item.chars ++ itemChars false items

/-- The text of the members that are left in an object, and its end. -/
def memberChars (first : Bool) : List (String × Json) → List Char
  | [] => ['\x7d']
  | (key, value) :: members =>
      (if first then [] else [',']) ++ quotedChars key ++ ':' :: value.chars
        ++ memberChars false members

end

def print (j : Json) : String := String.ofList j.chars

end Json

end Switchyard
