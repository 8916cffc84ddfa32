/-
  Switchyard.Http.RequestId
  ─────────────────────────
  Identifiers of requests: random UUIDs (version 4) in lower case, for
  requests that bring none of their own.
-/
import Switchyard.Http.Response

namespace Switchyard.RequestId

/-- An octet in two hexadecimal digits. -/
def octetText (b : UInt8) : List Char :=
  [Nat.digitChar (b.toNat / 16), Nat.digitChar (b.toNat % 16)]

/-- Marks sixteen random octets as a UUID of version 4. -/
def mark (random : Bytes) : Bytes :=
  random.mapIdx fun i b =>
    if i = 6 then b % 16 + 64 else if i = 8 then b % 64 + 128 else b

/-- The text of sixteen octets, in groups of 4, 2, 2, 2 and 6. -/
def text (octets : Bytes) : String :=
  let group (start count : Nat) : String :=
    String.ofList (((octets.drop start).take count).flatMap octetText)
  "-".intercalate [group 0 4, group 4 2, group 6 2, group 8 2, group 10 6]

/-- The identifier that random octets give. -/
def ofRandom (random : Bytes) : HeaderValue := .ofString (text (mark random))

end Switchyard.RequestId
