/-
  Switchyard.Text.Blank
  ─────────────────────
  The characters of the Unicode property White_Space, and the two things the
  program does with them: drop all of them (`withoutBlanks`) and ask whether a
  text holds anything else (`isBlankText`).
-/

namespace Switchyard.Text

/-- The code points with the property White_Space. -/
def isBlank (c : Char) : Bool :=
  let n := c.toNat
  (9 ≤ n && n ≤ 13) || n == 0x20 || n == 0x85 || n == 0xA0 || n == 0x1680
    || (0x2000 ≤ n && n ≤ 0x200A) || n == 0x2028 || n == 0x2029 || n == 0x202F
    || n == 0x205F || n == 0x3000

/-- A text of blanks only. -/
def isBlankText (s : String) : Bool := s.toList.all isBlank

/-- The text with every blank taken out. -/
def withoutBlanks (s : String) : String :=
  String.ofList (s.toList.filter fun c => !isBlank c)

end Switchyard.Text
