/-
  Switchyard.Http.Wire
  ────────────────────
  HTTP/1 on a connection: requests are read off the front of the octets that
  have arrived, and responses are written as octets.  A reader that needs more
  octets than there are is told apart from one that meets a mistake, so that
  the rest can be waited for.
-/
import Switchyard.Http.Response
import Switchyard.Text.Blank
import Switchyard.Text.Parser
import Switchyard.Text.Split

namespace Switchyard.Wire

/-! ## §1. Readers. -/

/-- Why no request can be read. -/
inductive Fault where
  /-- More octets have to arrive. -/
  | incomplete
  | malformed
  deriving DecidableEq, Repr, Inhabited

/-- Takes octets from the front. -/
abbrev Reader := StateT Bytes (Except Fault)

def fail {α : Type} (fault : Fault) : Reader α := fun _ => .error fault

/-- What stands before and after the first line feed. -/
def cutLine : Bytes → Option (Bytes × Bytes)
  | [] => none
  | 10 :: rest => some ([], rest)
  | b :: rest => (cutLine rest).map fun (line, rest) => (b :: line, rest)

/-- Takes a line; a carriage return at its end does not belong to it. -/
def line : Reader Bytes := fun bytes =>
  match cutLine bytes with
  | none => .error .incomplete
  | some (line, rest) => .ok (if line.getLast? = some 13 then line.dropLast else line, rest)

/-- Takes lines up to an empty one. -/
def linesToBlank : Nat → Reader (List Bytes)
  | 0 => fail .incomplete
  | fuel + 1 => do
      match ← line with
      | [] => return []
      | l => return l :: (← linesToBlank fuel)

/-- Takes a number of octets. -/
def exactly (n : Nat) : Reader Bytes := fun bytes =>
  if bytes.length < n then .error .incomplete else .ok (bytes.splitAt n)

/-- Octets as characters of the same numbers. -/
def chars (bytes : Bytes) : List Char := bytes.map fun b => Char.ofNat b.toNat

/-- What an optional value is, or a mistake. -/
def need {α : Type} : Option α → Reader α
  | some a => return a
  | none => fail .malformed

/-! ## §2. The head of a request. -/

inductive Version where
  | http10
  | http11
  deriving DecidableEq, Repr, Inhabited

structure Head where
  method : Method
  target : String
  version : Version
  headers : Headers
  deriving Inhabited

def version? : List Char → Option Version
  | ['H', 'T', 'T', 'P', '/', '1', '.', '0'] => some .http10
  | ['H', 'T', 'T', 'P', '/', '1', '.', '1'] => some .http11
  | _ => none

/-- The method, the target and the version in the first line. -/
def requestLine? (l : Bytes) : Option (Method × String × Version) :=
  match Text.pieces ' ' (chars l) with
  | [method, target, version] => do
      let method : Method := ⟨String.ofList method⟩
      let version ← version? version
      if method.IsToken ∧ target ≠ [] ∧ target.all (fun c => 0x20 < c.toNat ∧ c.toNat < 0x7F) then
        some (method, String.ofList target, version)
      else none
  | _ => none

def isSpace (b : UInt8) : Bool := b = 32 ∨ b = 9

/-- The octets without the blanks around them. -/
def trim (bytes : Bytes) : Bytes :=
  ((bytes.dropWhile isSpace).reverse.dropWhile isSpace).reverse

/-- A name and its value with a colon between them. -/
def field? (l : Bytes) : Option (HeaderName × HeaderValue) := do
  let (name, value) := l.span (· ≠ 58)
  guard (value ≠ [])
  return (← HeaderName.ofString? (String.ofList (chars name)), ← HeaderValue.ofBytes? (trim value.tail))

/-- Takes the head of a request; line ends in front of it are passed over. -/
def head : Reader Head := do
  modify fun bytes => bytes.dropWhile fun b => b = 13 ∨ b = 10
  match ← linesToBlank ((← get).length + 1) with
  | [] => fail .malformed
  | first :: fields => do
      let (method, target, version) ← need (requestLine? first)
      return { method, target, version, headers := ⟨← need (fields.mapM field?)⟩ }

/-! ## §3. The body. -/

/-- How long a body is. -/
inductive Framing where
  | length (n : Nat)
  /-- It comes in pieces, each behind its length. -/
  | chunked
  deriving DecidableEq, Repr, Inhabited

/-- The items of a header that holds a list, in lower case. -/
def listItems (h : Headers) (n : HeaderName) : List String :=
  (h.values n).flatMap fun v =>
    (Text.pieces ',' (chars v.bytes)).map fun item =>
      Text.withoutBlanks (Text.lowercase (String.ofList item))

/-- How long a request's body is, if its headers agree on that. -/
def Head.framing? (h : Head) : Option Framing :=
  match listItems h.headers { text := "transfer-encoding" } with
  | [] =>
      match listItems h.headers { text := "content-length" } with
      | [] => some (.length 0)
      | n :: ns => if ns.all (· = n) then (Text.natural? n.toList).map .length else none
  | codings => if codings.getLast? = some "chunked" then some .chunked else none

/-- The length of a chunk: hexadecimal digits, up to a semicolon if there is one. -/
def chunkLength? (l : Bytes) : Option Nat :=
  let digits := chars (trim (l.takeWhile (· ≠ 59)))
  if digits ≠ [] ∧ digits.all (Text.isDigitIn 16) then some (Text.valueIn 16 digits) else none

/-- Takes chunks up to the empty one, and the fields behind it. -/
def chunks : Nat → Reader Bytes
  | 0 => fail .incomplete
  | fuel + 1 => do
      match ← need (chunkLength? (← line)) with
      | 0 =>
          let _ ← linesToBlank ((← get).length + 1)
          return []
      | n =>
          let bytes ← exactly n
          if (← line) ≠ [] then fail .malformed
          return bytes ++ (← chunks fuel)

/-- Takes a request: its head and its body. -/
def request : Reader (Head × Bytes) := do
  let h ← head
  match ← need h.framing? with
  | .length n => return (h, ← exactly n)
  | .chunked => return (h, ← chunks ((← get).length + 1))

/-- Whether a client means to end the connection with the answer. -/
def Head.closes (h : Head) : Bool :=
  let options := listItems h.headers { text := "connection" }
  match h.version with
  | .http10 => !options.contains "keep-alive"
  | .http11 => options.contains "close"

/-! ## §4. Responses. -/

def Version.text : Version → String
  | .http10 => "HTTP/1.0"
  | .http11 => "HTTP/1.1"

/-- What is said of the connection: where it does not go without saying, that
it ends or stays. -/
def Version.connection? (v : Version) (closing : Bool) : Option String :=
  match v, closing with
  | .http10, false => some "keep-alive"
  | .http11, true => some "close"
  | _, _ => none

/-- Whether answers with a status have no body and no length. -/
def isBodiless (s : Status) : Bool := s.code < 200 ∨ s.code = 204 ∨ s.code = 304

/-- The headers of a response on the wire: its own, its length, and what is
said of the connection. -/
def wireHeaders (r : Response) (connection? : Option String) : Headers :=
  let length : HeaderName := { text := "content-length" }
  let h := if isBodiless r.status ∨ r.headers.get? length ≠ none then r.headers
    else r.headers.set length (.ofString (toString r.body.length))
  match connection? with
  | some connection => h.set { text := "connection" } (.ofString connection)
  | none => h

/-- A response as octets.  The answer to a `HEAD` request leaves its body out. -/
def responseBytes (version : Version) (toHead closing : Bool) (r : Response) : Bytes :=
  let reason := r.status.reason?.getD ""
  let fields := (wireHeaders r (version.connection? closing)).fields.flatMap fun (name, value) =>
    Utf8.encode (name.text ++ ": ") ++ value.bytes ++ [13, 10]
  Utf8.encode s!"{version.text} {r.status.code} {reason}\r\n" ++ fields ++ [13, 10]
    ++ if toHead || isBodiless r.status then [] else r.body

/-- The answer to octets that are no request. -/
def malformedBytes : Bytes := responseBytes .http11 false true (Response.new .badRequest [])

end Switchyard.Wire
