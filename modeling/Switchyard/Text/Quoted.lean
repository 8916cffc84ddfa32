/-
  Switchyard.Text.Quoted
  ──────────────────────
  The quoted form of a text, used where a message shows a name or a file path:
  double quotes around it, a backslash before a backslash and a double quote,
  the short forms for tab, line feed, carriage return and NUL, and a code point
  in hexadecimal for every other character that is not visible.
-/
import Switchyard.Text.Visible

namespace Switchyard.Text

/-- The hexadecimal digits of a number, lower case, without leading zeros. -/
def hexDigits (n : Nat) : List Char := Nat.toDigits 16 n

/-- How one character stands inside quotes. -/
def quotedChar (c : Char) : List Char :=
  if c = '"' then ['\\', '"']
  else if c = '\\' then ['\\', '\\']
  else if c = '\t' then ['\\', 't']
  else if c = '\n' then ['\\', 'n']
  else if c = '\r' then ['\\', 'r']
  else if c = '\x00' then ['\\', '0']
  else if isVisible c then [c]
  else ['\\', 'u', '\x7b'] ++ hexDigits c.toNat ++ ['\x7d']

/-- The text in quotes. -/
def quoted (s : String) : String :=
  String.ofList ('"' :: s.toList.flatMap quotedChar ++ ['"'])

end Switchyard.Text
