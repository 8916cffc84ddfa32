/-
  Switchyard.Text.Case
  ────────────────────
  Texts that differ in the case of ASCII letters only.
-/

namespace Switchyard.Text

/-- The text with its ASCII capital letters made small; other letters stay. -/
def lowercase (s : String) : String := String.ofList (s.toList.map Char.toLower)

/-- Whether two texts are the same up to the case of ASCII letters. -/
def sameUpToCase (s t : String) : Bool := lowercase s == lowercase t

end Switchyard.Text
