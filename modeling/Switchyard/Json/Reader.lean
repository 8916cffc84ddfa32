/-
  Switchyard.Json.Reader
  ──────────────────────
  Taking JSON off octets, front to back.  A reader takes octets from the front
  and stops at the first that does not fit.  Its fault tells apart a text that
  ends too early from one that is wrong, and the first fault in the order of
  the text is the one reported.

  Octets are looked at as the characters of the same number (`sign`).  All
  that JSON is built of is ASCII; what is not stands only inside strings.
-/
import Switchyard.Text.Parser
import Switchyard.Text.Utf8

namespace Switchyard.Json

/-- Why a text cannot be read. -/
inductive ReadFault where
  /-- The text ends where more has to follow. -/
  | truncated
  /-- The text is no JSON, or not of the shape that is read. -/
  | invalid
  deriving DecidableEq, Repr, Inhabited

/-- Takes octets from the front. -/
abbrev Reader := StateT Bytes (Except ReadFault)

/-- The character with the number of an octet. -/
abbrev sign (b : UInt8) : Char := Char.ofUInt8 b

/-- A blank between the parts of a text. -/
def isGap (b : UInt8) : Bool := sign b = ' ' || sign b = '\n' || sign b = '\t' || sign b = '\r'

namespace Reader

/-- Stops. -/
def fail {α : Type} (fault : ReadFault) : Reader α := fun _ => .error fault

/-! ## §1. Marks and words. -/

/-- Takes the next octet. -/
def next : Reader Char
  | [] => .error .truncated
  | b :: bs => .ok (sign b, bs)

/-- Takes the next octet if it satisfies a condition.  Tells whether it does. -/
def accept (p : Char → Bool) : Reader Bool
  | [] => .ok (false, [])
  | b :: bs => if p (sign b) then .ok (true, bs) else .ok (false, b :: bs)

/-- Passes over blanks.  Gives the octet behind them, which stays. -/
def ahead : Reader Char := fun bs =>
  match bs.dropWhile isGap with
  | [] => .error .truncated
  | b :: bs => .ok (sign b, b :: bs)

/-- Passes over blanks and takes the octet behind them. -/
def mark : Reader Char := do
  let _ ← ahead
  next

/-- Takes the given octet behind blanks, or stops. -/
def expect (c : Char) : Reader Unit := do
  if (← mark) ≠ c then fail .invalid

/-- Takes the letters of a word. -/
def word : List Char → Reader Unit
  | [] => return ()
  | c :: cs => do
      if (← next) ≠ c then fail .invalid
      word cs

/-! ## §2. Numbers. -/

/-- Takes digits, of which there has to be one.  `atEnd` is the fault of a text
that ends in front of it. -/
def digits (atEnd : ReadFault) : Reader (List Char) := fun bs =>
  match bs.span fun b => (sign b).isDigit with
  | ([], []) => .error atEnd
  | ([], _) => .error .invalid
  | (ds, rest) => .ok (ds.map sign, rest)

/-- Takes digits behind a character that asks for them, if that is next.  Tells
whether it is. -/
def part (atEnd : ReadFault) (opens : Char → Bool) (maySign : Bool) : Reader Bool := do
  if ← accept opens then
    if maySign then
      let _ ← accept fun c => c = '+' || c = '-'
    let _ ← digits atEnd
    return true
  else return false

/-- A number: its value if it is an integer.  One with a fraction or an
exponent is not, nor is the negative zero. -/
def number (atEnd : ReadFault) : Reader (Option Int) := do
  let negative ← accept (· = '-')
  let whole ← digits atEnd
  if whole.head? = some '0' && whole.length ≠ 1 then fail .invalid
  let fraction ← part atEnd (· = '.') false
  let exponent ← part atEnd (fun c => c = 'e' || c = 'E') true
  let n := Text.valueIn 10 whole
  if fraction || exponent || (negative && n = 0) then return none
  else return some (if negative then -n else n)

/-- Whether a value that begins with the character is a number. -/
def opensNumber (c : Char) : Bool := c = '-' || c.isDigit

/-- What a reader makes of a whole text, behind which only blanks may stand. -/
def run {α : Type} (reader : Reader α) (content : Bytes) : Except ReadFault α :=
  match reader content with
  | .ok (a, rest) => if rest.all isGap then .ok a else .error .invalid
  | .error fault => .error fault

end Reader

end Switchyard.Json
