/-
  Switchyard.Json.Quoted
  ──────────────────────
  Strings of JSON, octet by octet behind the opening quote.  `Place` says where
  in a string an octet stands, and `step` what it adds there.

  A string is read in one of two ways:

      strict   — its escapes have to spell characters, so that a half of a
                 surrogate pair needs the other half, and the whole has to be
                 UTF-8 (`text`)
      lenient  — only its end is of interest (`skipText`)
-/
import Switchyard.Json.Reader

namespace Switchyard.Json

/-! ## §1. Escapes. -/

/-- The character of a one-letter escape. -/
def shortEscape? : Char → Option Char
  | '"' => some '"'
  | '\\' => some '\\'
  | '/' => some '/'
  | 'b' => some '\x08'
  | 'f' => some '\x0c'
  | 'n' => some '\n'
  | 'r' => some '\r'
  | 't' => some '\t'
  | _ => none

/-- The 16-bit number of four hexadecimal digits. -/
def code? (digits : List Char) : Option Nat :=
  if digits.all (Text.isDigitIn 16) then some (Text.valueIn 16 digits) else none

/-- The first half of a surrogate pair. -/
def isHigh (n : Nat) : Bool := 0xD800 ≤ n && n < 0xDC00

/-- The second half of a surrogate pair. -/
def isLow (n : Nat) : Bool := 0xDC00 ≤ n && n < 0xE000

/-- The character that the two halves of a surrogate pair stand for. -/
def pairChar (high low : Nat) : Char :=
  Char.ofNat (0x10000 + (high - 0xD800) * 0x400 + (low - 0xDC00))

/-! ## §2. One octet. -/

/-- Where in a string an octet stands. -/
inductive Place where
  /-- Behind a whole character. -/
  | plain
  /-- Behind a backslash. -/
  | escape
  /-- Behind `\u` and some of its four digits.  It may be the second escape of
  a surrogate pair. -/
  | code (high? : Option Nat) (digits : List Char)
  /-- Behind the first half of a surrogate pair. -/
  | half (high : Nat)
  /-- Behind the first half of a surrogate pair and a backslash. -/
  | halfEscape (high : Nat)
  deriving DecidableEq, Repr, Inhabited

/-- What a string goes on with behind a 16-bit number: the octets that are
clear by now, and the place of the next one. -/
def Place.ofCode : Option Nat → Nat → Except ReadFault (Bytes × Place)
  | none, n =>
      if isHigh n then .ok ([], .half n)
      else if isLow n then .error .invalid
      else .ok (String.utf8EncodeChar (Char.ofNat n), .plain)
  | some high, n =>
      if isLow n then .ok (String.utf8EncodeChar (pairChar high n), .plain)
      else .error .invalid

/-- What an octet adds to a string, and the place of the next one: there is
none behind the closing quote. -/
def Place.step (strict : Bool) (b : UInt8) : Place → Except ReadFault (Bytes × Option Place)
  | .plain =>
      if sign b = '"' then .ok ([], none)
      else if sign b = '\\' then .ok ([], some .escape)
      else if b < 0x20 then .error .invalid
      else .ok ([b], some .plain)
  | .escape =>
      if sign b = 'u' then .ok ([], some (.code none []))
      else match shortEscape? (sign b) with
        | some c => .ok (String.utf8EncodeChar c, some .plain)
        | none => .error .invalid
  | .code high? digits =>
      let digits := digits ++ [sign b]
      if digits.length < 4 then .ok ([], some (.code high? digits))
      else match code? digits with
        | none => .error .invalid
        | some n =>
            if strict then (Place.ofCode high? n).map fun (out, place) => (out, some place)
            else .ok ([], some .plain)
  | .half high => if sign b = '\\' then .ok ([], some (.halfEscape high)) else .error .invalid
  | .halfEscape high => if sign b = 'u' then .ok ([], some (.code (some high) [])) else .error .invalid

/-! ## §3. The whole string. -/

/-- The octets of a string from a place on, up to the closing quote. -/
def unquote (strict : Bool) : Place → Reader Bytes
  | _, [] => .error .truncated
  | place, b :: bs =>
      match place.step strict b with
      | .error fault => .error fault
      | .ok (out, none) => .ok (out, bs)
      | .ok (out, some place) => (unquote strict place bs).map fun (more, rest) => (out ++ more, rest)

namespace Reader

/-- The rest of a string whose opening quote is taken. -/
def restOfText : Reader String := do
  match Utf8.decode? (← unquote true .plain) with
  | some s => return s
  | none => fail .invalid

/-- Passes over a string. -/
def skipText : Reader Unit := do
  expect '"'
  let _ ← unquote false .plain

end Reader

end Switchyard.Json
