/-
  Switchyard.Text.Utf8
  ────────────────────
  Octets, and the octets of a string.
-/

namespace Switchyard

/-- A sequence of octets: a body, a header value, the content of a file. -/
abbrev Bytes := List UInt8

namespace Utf8

/-- The UTF-8 octets of a string. -/
def encode (s : String) : Bytes := s.toUTF8.data.toList

/-- The string that the octets spell, if they are well-formed UTF-8. -/
def decode? (bytes : Bytes) : Option String := String.fromUTF8? bytes.toByteArray

end Utf8

end Switchyard
