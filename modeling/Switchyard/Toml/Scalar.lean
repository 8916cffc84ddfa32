/-
  Switchyard.Toml.Scalar
  ──────────────────────
  The parts of TOML text (version 1.0) that stand on their own: blanks and
  comments, strings, numbers, dates and times, and keys.
-/
import Switchyard.Text.Parser
import Switchyard.Toml.Value

namespace Switchyard.Toml

open Text (Parser)
open Text.Parser

/-! ## §1. Blanks, line ends and comments. -/

def isSpace (c : Char) : Bool := c == ' ' || c == '\t'

/-- Passes over spaces and tabs. -/
def spaces : Parser Unit := do let _ ← takeWhile isSpace

/-- A line feed, alone or behind a carriage return. -/
def newline : Parser Unit := char '\n' <|> chars ['\r', '\n']

/-- A character of a comment: a tab or no control character. -/
def isCommentChar (c : Char) : Bool := c == '\t' || (0x20 ≤ c.toNat && c.toNat != 0x7F)

/-- A comment, up to the end of its line. -/
def comment : Parser Unit := do
  char '#'
  let _ ← takeWhile isCommentChar

/-- The end of a line or of the text. -/
def lineEnd : Parser Unit := do
  if (← peek?) ≠ none then newline

/-- What may follow on a line. -/
def restOfLine : Parser Unit := do
  spaces
  if (← peek?) = some '#' then comment
  lineEnd

/-- Passes over spaces and line ends. -/
def blankLines : Nat → Parser Unit
  | 0 => pure ()
  | fuel + 1 => do
      spaces
      match ← attempt newline with
      | some _ => blankLines fuel
      | none => pure ()

/-- Passes over spaces, line ends and comments. -/
def trivia : Nat → Parser Unit
  | 0 => pure ()
  | fuel + 1 => do
      spaces
      if (← peek?) = some '#' then
        comment
        newline
        trivia fuel
      else
        match ← attempt newline with
        | some _ => trivia fuel
        | none => pure ()

/-! ## §2. Strings. -/

/-- A character that stands for itself between double quotes. -/
def isBasicChar (c : Char) : Bool := isCommentChar c && c != '"' && c != '\\'

/-- A character that stands for itself between single quotes. -/
def isLiteralChar (c : Char) : Bool := isCommentChar c && c != '\''

/-- The character with the number that hexadecimal digits spell. -/
def hexChar (digits : Nat) : Parser Char := do
  let ds ← (List.replicate digits ()).mapM fun _ => next
  guard (ds.all (Text.isDigitIn 16))
  let n := Text.valueIn 16 ds
  guard n.isValidChar
  return Char.ofNat n

/-- The character that follows a backslash as an escape. -/
def escape : Parser Char := do
  match ← next with
  | 'b' => return '\x08'
  | 't' => return '\t'
  | 'n' => return '\n'
  | 'f' => return '\x0c'
  | 'r' => return '\r'
  | '"' => return '"'
  | '\\' => return '\\'
  | 'u' => hexChar 4
  | 'U' => hexChar 8
  | _ => failure

/-- The rest of a string in double quotes. -/
def basicRest : Nat → Parser (List Char)
  | 0 => failure
  | fuel + 1 => do
      match ← next with
      | '"' => return []
      | '\\' => return (← escape) :: (← basicRest fuel)
      | c =>
          guard (isBasicChar c)
          return c :: (← basicRest fuel)

/-- The rest of a string in single quotes. -/
def literalRest : Parser (List Char) := do
  let cs ← takeWhile isLiteralChar
  char '\''
  return cs

/-- A backslash at the end of a line joins it to what follows the blanks of
the next ones. -/
def joinedLines : Parser Unit := do
  spaces
  newline
  bounded blankLines

/-- The rest of a string of several lines.  Up to two quotes stand for
themselves; at the end up to two more than the closing three do. -/
def multilineRest (quote : Char) (escapes : Bool) : Nat → Parser (List Char)
  | 0 => failure
  | fuel + 1 => do
      let c ← next
      if c = quote then
        let count := (← takeWhile (· == quote)).length + 1
        if count < 3 then
          return List.replicate count quote ++ (← multilineRest quote escapes fuel)
        guard (count ≤ 5)
        return List.replicate (count - 3) quote
      else if c = '\\' ∧ escapes then
        match ← attempt joinedLines with
        | some _ => multilineRest quote escapes fuel
        | none => return (← escape) :: (← multilineRest quote escapes fuel)
      else if c = '\n' then return '\n' :: (← multilineRest quote escapes fuel)
      else if c = '\r' then
        char '\n'
        return '\n' :: (← multilineRest quote escapes fuel)
      else
        guard (isCommentChar c)
        return c :: (← multilineRest quote escapes fuel)

/-- A string of several lines behind its opening quotes.  A line end right
behind them does not count. -/
def multiline (quote : Char) (escapes : Bool) : Parser (List Char) := do
  let _ ← attempt newline
  bounded (multilineRest quote escapes)

/-- A string on one line, in quotes of either kind. -/
def lineString : Parser String := do
  match ← next with
  | '"' => return String.ofList (← bounded basicRest)
  | '\'' => return String.ofList (← literalRest)
  | _ => failure

/-- A string of any of the four kinds. -/
def string : Parser String :=
  (do chars ['"', '"', '"']; return String.ofList (← multiline '"' true))
    <|> (do chars ['\'', '\'', '\'']; return String.ofList (← multiline '\'' false))
    <|> lineString

/-! ## §3. Numbers. -/

/-- Digits that follow; single underscores may stand between digits. -/
def moreDigits (base : Nat) : Nat → Parser (List Char)
  | 0 => return []
  | fuel + 1 => do
      let ds ← takeWhile (Text.isDigitIn base)
      match ← attempt (do char '_'; let c ← next; guard (Text.isDigitIn base c); return c) with
      | some c => return ds ++ c :: (← moreDigits base fuel)
      | none => return ds

/-- At least one digit. -/
def digits (base : Nat) : Parser (List Char) := do
  let c ← next
  guard (Text.isDigitIn base c)
  return c :: (← bounded (moreDigits base))

/-- An optional sign: whether it is a minus. -/
def sign : Parser Bool := do
  match ← attempt (char '-') with
  | some _ => return true
  | none =>
      let _ ← attempt (char '+')
      return false

/-- A sign and digits without a zero in front of others. -/
def signedDigits : Parser (Bool × List Char) := do
  let negative ← sign
  if (← peek?) = some '0' then
    char '0'
    return (negative, ['0'])
  return (negative, ← digits 10)

/-- An integer that fits into 64 bits with its sign. -/
def integer : Parser Value := do
  let (negative, n) ←
    (do chars ['0', 'x']; return (false, Text.valueIn 16 (← digits 16)))
      <|> (do chars ['0', 'o']; return (false, Text.valueIn 8 (← digits 8)))
      <|> (do chars ['0', 'b']; return (false, Text.valueIn 2 (← digits 2)))
      <|> (do let (negative, ds) ← signedDigits; return (negative, Text.valueIn 10 ds))
  guard (n < Int64.size / 2 ∨ (negative ∧ n = Int64.size / 2))
  return .integer (if negative then -n else n)

/-- An exponent with its letter. -/
def exponent : Parser Int := do
  guard ((← next).toLower = 'e')
  let negative ← sign
  let n : Nat := Text.valueIn 10 (← digits 10)
  return if negative then -n else n

/-- The least number that is rounded to no finite 64-bit float. -/
def floatBound : Nat := Nat.pow 2 1024 - Nat.pow 2 970

/-- Whether a number with the digits of `n` and the exponent `e` is too large
for a 64-bit float, rounding included. -/
def overflows (n : Nat) (e : Int) : Bool :=
  let size : Int := (Nat.toDigits 10 n).length + e
  if n = 0 ∨ size < 300 then false
  else if 320 < size then true
  else if 0 ≤ e then floatBound ≤ n * Nat.pow 10 e.toNat
  else floatBound * Nat.pow 10 (-e).toNat ≤ n

/-- A float: digits with a fraction, an exponent or both, or one of the words
for what is no finite number. -/
def float : Parser Value := do
  let finite : Parser Unit := do
    let (negative, whole) ← signedDigits
    let fraction ← attempt (do char '.'; digits 10)
    let power ← match fraction with
      | some _ => attempt exponent
      | none => some <$> exponent
    let places := (fraction.getD []).length
    guard (negative ∨
      !overflows (Text.valueIn 10 (whole ++ fraction.getD [])) (power.getD 0 - places))
  let special : Parser Unit := do
    let _ ← sign
    chars ['i', 'n', 'f'] <|> chars ['n', 'a', 'n']
  finite <|> special
  return .float

/-! ## §4. Dates and times. -/

/-- A number of so many digits between two bounds. -/
def fixed (width low high : Nat) : Parser Nat := do
  let ds ← (List.replicate width ()).mapM fun _ => next
  guard (ds.all Char.isDigit)
  let n := Text.valueIn 10 ds
  guard (low ≤ n ∧ n ≤ high)
  return n

/-- How many days a month has. -/
def daysIn (year month : Nat) : Nat :=
  if month = 2 then
    if year % 4 = 0 ∧ (year % 100 ≠ 0 ∨ year % 400 = 0) then 29 else 28
  else if month ∈ [4, 6, 9, 11] then 30 else 31

def date : Parser Unit := do
  let year ← fixed 4 0 9999
  char '-'
  let month ← fixed 2 1 12
  char '-'
  let _ ← fixed 2 1 (daysIn year month)

def time : Parser Unit := do
  let _ ← fixed 2 0 23
  char ':'
  let _ ← fixed 2 0 59
  char ':'
  let _ ← fixed 2 0 60
  let _ ← attempt (do char '.'; let ds ← takeWhile Char.isDigit; guard (ds ≠ []))

/-- The distance from universal time. -/
def offset : Parser Unit := do
  match ← next with
  | 'Z' | 'z' => pure ()
  | '+' | '-' =>
      let _ ← fixed 2 0 23
      char ':'
      let _ ← fixed 2 0 59
  | _ => failure

/-- A date, a time, or a date with a time and perhaps an offset. -/
def dateTime : Parser Value := do
  let dated : Parser Unit := do
    date
    let _ ← attempt (do
      guard ((← next) ∈ ['T', 't', ' '])
      time
      let _ ← attempt offset)
  dated <|> time
  return .dateTime

/-! ## §5. Scalars and keys. -/

/-- A value that holds no other. -/
def scalar : Parser Value := do
  match ← peek? with
  | some '"' | some '\'' => return .text (← string)
  | some 't' =>
      chars ['t', 'r', 'u', 'e']
      return .boolean true
  | some 'f' =>
      chars ['f', 'a', 'l', 's', 'e']
      return .boolean false
  | _ => dateTime <|> float <|> integer

def isBareKeyChar (c : Char) : Bool := c.isAlphanum || c == '_' || c == '-'

/-- One part of a key, bare or in quotes. -/
def simpleKey : Parser String := do
  match ← peek? with
  | some '"' | some '\'' => lineString
  | _ =>
      let cs ← takeWhile isBareKeyChar
      guard (cs ≠ [])
      return String.ofList cs

/-- The further parts of a key. -/
def moreKeys : Nat → Parser (List String)
  | 0 => return []
  | fuel + 1 => do
      spaces
      match ← attempt (char '.') with
      | some _ =>
          spaces
          let key ← simpleKey
          return key :: (← moreKeys fuel)
      | none => return []

/-- How deep keys, arrays and inline tables may go. -/
def maxDepth : Nat := 79

/-- A key: parts with dots between them.  Gives the parts before the last, and
the last. -/
def key : Parser (List String × String) := do
  spaces
  let first ← simpleKey
  let parts := first :: (← bounded moreKeys)
  guard (parts.length ≤ maxDepth)
  return (parts.dropLast, parts.getLast?.getD first)

end Switchyard.Toml
