/-
  Switchyard.Text.Parser
  ──────────────────────
  Parsers that take characters from the front of a text.  A parser that fails
  takes nothing, so `p <|> q` tries `q` where `p` was tried.
-/

namespace Switchyard.Text

abbrev Parser := StateT (List Char) Option

namespace Parser

/-- Takes the next character. -/
def next : Parser Char
  | [] => none
  | c :: cs => some (c, cs)

/-- The next character, which stays. -/
def peek? : Parser (Option Char) := fun cs => some (cs.head?, cs)

/-- Takes the given character. -/
def char (expected : Char) : Parser Unit := do guard ((← next) = expected)

/-- Takes the given characters, one after the other. -/
def chars (expected : List Char) : Parser Unit := expected.forM char

/-- Takes all characters in front that satisfy a condition. -/
def takeWhile (p : Char → Bool) : Parser (List Char) := fun cs => some (cs.span p)

/-- What a parser makes of the text; if it fails, nothing is taken. -/
def attempt {α : Type} (p : Parser α) : Parser (Option α) := (some <$> p) <|> pure none

/-- A parser that can be repeated at most as often as characters are left. -/
def bounded {α : Type} (p : Nat → Parser α) : Parser α := do p ((← get).length + 1)

/-- What the parser makes of the whole text, nothing being left. -/
def run? {α : Type} (p : Parser α) (text : String) : Option α :=
  match p text.toList with
  | some (a, []) => some a
  | _ => none

end Parser

/-- The value of a digit in a base of at most sixteen. -/
def digit? (base : Nat) (c : Char) : Option Nat :=
  let value :=
    if '0' ≤ c ∧ c ≤ '9' then c.toNat - 48
    else if 'a' ≤ c ∧ c ≤ 'f' then c.toNat - 87
    else if 'A' ≤ c ∧ c ≤ 'F' then c.toNat - 55
    else base
  if value < base then some value else none

/-- Whether a character is a digit in the base. -/
def isDigitIn (base : Nat) (c : Char) : Bool := (digit? base c).isSome

/-- The number that digits spell in a base. -/
def valueIn (base : Nat) (digits : List Char) : Nat :=
  digits.foldl (fun n c => n * base + (digit? base c).getD 0) 0

/-- The number that a text of decimal digits spells. -/
def natural? (cs : List Char) : Option Nat :=
  if cs ≠ [] ∧ cs.all Char.isDigit then some (valueIn 10 cs) else none

end Switchyard.Text
