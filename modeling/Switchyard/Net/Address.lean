/-
  Switchyard.Net.Address
  ──────────────────────
  Socket addresses in text: `a.b.c.d:port` and `[v6]:port`, the latter with an
  optional `%scope` in decimal.  Octets have no leading zeros, groups at most
  four hexadecimal digits, and one `::` stands for at least one group of zero.
-/
import Switchyard.Text.Parser

namespace Switchyard

inductive IpAddress where
  | v4 (octets : List Nat)
  | v6 (groups : List Nat) (scope : Nat)
  deriving DecidableEq, Repr, Inhabited

structure SocketAddress where
  ip : IpAddress
  port : Nat
  deriving DecidableEq, Repr, Inhabited

/-! ## §1. Reading. -/

namespace SocketAddress

open Text.Parser

/-- Takes all the digits in front: at least one, at most `maxDigits` if that is
given, with a value below `bound`. -/
def number (base bound : Nat) (maxDigits? : Option Nat) (leadingZero : Bool) :
    Text.Parser Nat := do
  let digits ← takeWhile (Text.isDigitIn base)
  guard (digits ≠ [])
  guard (Text.valueIn base digits < bound)
  guard (maxDigits?.all (digits.length ≤ ·))
  guard (leadingZero ∨ digits.head? ≠ some '0' ∨ digits.length = 1)
  return Text.valueIn base digits

/-- Four octets with dots between them. -/
def v4 : Text.Parser (List Nat) := do
  let octet := number 10 256 (some 3) false
  let a ← octet
  char '.'
  let b ← octet
  char '.'
  let c ← octet
  char '.'
  let d ← octet
  return [a, b, c, d]

/-- As many groups as there are, up to `room`, with colons between them.  The
last two may be written as an IPv4 address; tells whether they are. -/
def groups (first : Bool) : Nat → Text.Parser (List Nat × Bool)
  | 0 => return ([], false)
  | room + 1 => do
      let separator : Text.Parser Unit := if first then pure () else char ':'
      let embedded ← if room = 0 then pure none else attempt (do separator; v4)
      match embedded with
      | some [a, b, c, d] => return ([a * 256 + b, c * 256 + d], true)
      | _ =>
          match ← attempt (do separator; number 16 65536 (some 4) true) with
          | none => return ([], false)
          | some group =>
              let (more, embedded) ← groups false room
              return (group :: more, embedded)

/-- The eight groups of an IPv6 address. -/
def v6 : Text.Parser (List Nat) := do
  let (head, embedded) ← groups true 8
  if head.length = 8 then return head
  guard !embedded
  char ':'
  char ':'
  let (tail, _) ← groups true (7 - head.length)
  return head ++ List.replicate (8 - head.length - tail.length) 0 ++ tail

/-- A colon and a port. -/
def portNumber : Text.Parser Nat := do
  char ':'
  number 10 65536 none true

/-- An address of either kind, with its port. -/
def address : Text.Parser SocketAddress := do
  if (← peek?) ≠ some '[' then return ⟨.v4 (← v4), ← portNumber⟩
  char '['
  let groups ← v6
  let scope ← attempt (do char '%'; number 10 UInt32.size none true)
  char ']'
  return ⟨.v6 groups (scope.getD 0), ← portNumber⟩

/-- The address that a text spells, with nothing before or after it. -/
def parse? (text : String) : Option SocketAddress := address.run? text

end SocketAddress

/-! ## §2. Writing. -/

namespace IpAddress

/-- How many groups of zero there are in front. -/
def leadingZeros (groups : List Nat) : Nat := (groups.takeWhile (· = 0)).length

/-- Where the longest run of at least two groups of zero begins, the first of
several, and how long it is. -/
def longestZeros (groups : List Nat) : Nat × Nat :=
  (List.range groups.length).foldl (fun (start, length) i =>
    let here := leadingZeros (groups.drop i)
    if length < here ∧ 1 < here then (i, here) else (start, length)) (0, 0)

def groupsText (groups : List Nat) : String :=
  ":".intercalate (groups.map fun g => String.ofList (Nat.toDigits 16 g))

def octetsText (octets : List Nat) : String := ".".intercalate (octets.map toString)

/-- The shortest text of eight groups; the last two are written as an IPv4
address if the others are those of a mapped one. -/
def v6Text (groups : List Nat) : String :=
  match groups with
  | [0, 0, 0, 0, 0, 0xFFFF, a, b] =>
      "::ffff:" ++ octetsText [a / 256, a % 256, b / 256, b % 256]
  | _ =>
      match longestZeros groups with
      | (_, 0) => groupsText groups
      | (start, length) =>
          groupsText (groups.take start) ++ "::" ++ groupsText (groups.drop (start + length))

/-- The address as text, without a scope. -/
def text : IpAddress → String
  | .v4 octets => octetsText octets
  | .v6 groups _ => v6Text groups

end IpAddress

/-- The address and the port as text. -/
def SocketAddress.text (a : SocketAddress) : String :=
  let host := match a.ip with
    | .v4 _ => a.ip.text
    | .v6 _ 0 => s!"[{a.ip.text}]"
    | .v6 _ scope => s!"[{a.ip.text}%{scope}]"
  s!"{host}:{a.port}"

end Switchyard
