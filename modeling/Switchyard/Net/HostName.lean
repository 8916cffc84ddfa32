/-
  Switchyard.Net.HostName
  ───────────────────────
  How a host is named:

    * an address        — `127.0.0.1`, `::1`, and `fe80::1%2` with its scope;
    * up to four numbers — `127.1`, `0x7f000001`: the last one fills all the
                          octets that are left;
    * `localhost`       — in small or capital letters;
    * a domain name     — labels with dots between them, for a name server.
-/
import Switchyard.Net.Address

namespace Switchyard.HostName

open Text.Parser

/-! ## §1. Addresses. -/

/-- A number spread over so many octets, the most significant first, if it fits. -/
def octets? : Nat → Nat → Option (List Nat)
  | 0, n => if n = 0 then some [] else none
  | count + 1, n => (octets? count (n / 256)).map (· ++ [n % 256])

/-- A number: hexadecimal behind `0x`, octal behind `0`, and decimal otherwise. -/
def number : Text.Parser Nat :=
  (do char '0'; guard ((← next) ∈ ['x', 'X']); SocketAddress.number 16 UInt32.size none true)
    <|> (do guard ((← peek?) = some '0'); SocketAddress.number 8 UInt32.size none true)
    <|> SocketAddress.number 10 UInt32.size none false

/-- Numbers with dots between them that fill so many octets: one each, and the
last all that are left. -/
def numbers : Nat → Text.Parser (List Nat)
  | 0 => failure
  | room + 1 => do
      let n ← number
      match ← attempt (char '.') with
      | some _ => return (← octets? 1 n) ++ (← numbers room)
      | none => octets? (room + 1) n

/-- An IPv6 address, with or without a scope. -/
def ipv6 : Text.Parser IpAddress := do
  let groups ← SocketAddress.v6
  let scope ← attempt (do char '%'; SocketAddress.number 10 UInt32.size none true)
  return .v6 groups (scope.getD 0)

/-- The address of a host that no name server has to be asked for. -/
def address? (host : String) : Option IpAddress :=
  if host.map Char.toLower = "localhost" then some (.v4 [127, 0, 0, 1])
  else ((numbers 4).run? host).map .v4 <|> ipv6.run? host

/-! ## §2. Domain names. -/

/-- What stands behind a backslash: three decimal digits spell an octet, any
other character stands for itself. -/
def escaped : Text.Parser Char := do
  let c ← next
  if !c.isDigit then return c
  let value ← Text.natural? [c, ← next, ← next]
  guard (value < 256)
  return .ofNat value

/-- A character of a label: an ASCII letter, a digit, a hyphen or an underscore. -/
def labelChar : Text.Parser Char := do
  let c ← (do char '\\'; escaped) <|> next
  guard (c.isAlphanum ∨ c = '-' ∨ c = '_')
  return c

/-- All the characters of a label in front. -/
def labelChars : Nat → Text.Parser (List Char)
  | 0 => return []
  | fuel + 1 => do
      match ← attempt labelChar with
      | some c => return c :: (← labelChars fuel)
      | none => return []

/-- A label has one to sixty-three characters. -/
def label : Text.Parser (List Char) := do
  let cs ← bounded labelChars
  guard (cs ≠ [] ∧ cs.length ≤ 63)
  return cs

/-- Labels with dots between them.  A dot may stand behind the last. -/
def labels : Nat → Text.Parser (List (List Char))
  | 0 => return []
  | fuel + 1 => do
      match ← attempt label with
      | none => return []
      | some first =>
          match ← attempt (char '.') with
          | some _ => return first :: (← labels fuel)
          | none => return [first]

/-- The octets that labels take up in a question to a name server: one before
each label for its length, and one at the end. -/
def questionSize (names : List (List Char)) : Nat :=
  names.foldl (fun size name => size + name.length + 1) 1

/-- Whether a name server can be asked for the host. -/
def isDomainName (host : String) : Bool :=
  host = "." || match (bounded labels).run? host with
    | some (first :: more) =>
        first.head? ≠ some '-' && decide (questionSize (first :: more) ≤ 255)
    | _ => false

end Switchyard.HostName
