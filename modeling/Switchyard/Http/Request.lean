/-
  Switchyard.Http.Request
  ───────────────────────
  What a handler sees of a request, and the body of a request as it arrives:
  a sequence of chunks that may break off with an error.
-/
import Switchyard.Http.Header
import Switchyard.Net.Transport
import Switchyard.Text.Split

namespace Switchyard

/-! ## §1. Queries and requests. -/

/-- Captured values by name, in the order in which a pattern declares them. -/
abbrev Params := List (String × String)

namespace Query

/-- The non-empty pieces of a raw query between its ampersands, in order. -/
def items (query : String) : List String :=
  (Text.split '&' query).filter (· ≠ "")

/-- Name and value of a piece: what stands before and after its first equals
sign.  A piece without one has the empty value. -/
def nameValue (piece : String) : String × String :=
  match Text.cutFirst? '=' piece.toList with
  | some (name, value) => (String.ofList name, String.ofList value)
  | none => (piece, "")

/-- The value of the first piece with the given name, undecoded. -/
def lookup (query : String) (name : String) : Option String :=
  ((Text.split '&' query).map nameValue).lookup name

end Query

structure Request where
  method : Method
  path : String
  /-- The raw query without its question mark. -/
  query : Option String
  headers : Headers
  params : Params
  body : Bytes
  /-- The request's identifier, empty if it has none that can be read. -/
  id : String
  /-- The address of the other end, as text. -/
  peer : String
  transport : Transport
  deriving Inhabited

namespace Request

/-- A captured value. -/
def param (r : Request) (name : String) : Option String := r.params.lookup name

/-- The first value of a header, if it can be read as text. -/
def header (r : Request) (name : String) : Option String :=
  (HeaderName.ofString? name).bind r.headers.text?

/-- The value of the first query piece with the given name. -/
def queryParam (r : Request) (name : String) : Option String :=
  r.query.bind (Query.lookup · name)

end Request

/-! ## §2. Bodies on arrival. -/

/-- Why a body cannot be read.  An error may come from another one, which may
come from a further one in turn. -/
inductive BodyError where
  /-- A body is longer than the limit set for it. -/
  | lengthLimit
  /-- Any other error that comes from no further one. -/
  | other
  /-- Any other error, with what it comes from. -/
  | causedBy (source : BodyError)
  deriving DecidableEq, Repr, Inhabited

/-- Whether a limit on the length of a body is behind the error: it is the error
itself, or one that it comes from. -/
def BodyError.isLengthLimit : BodyError → Bool
  | .lengthLimit => true
  | .other => false
  | .causedBy source => source.isLengthLimit

/-- What arrives of a body at one time. -/
inductive Chunk where
  | data (bytes : Bytes)
  /-- The rest cannot be delivered.  Who delivers it says why, and may itself
  have set a limit to the length. -/
  | broken (error : BodyError := .other)
  deriving DecidableEq, Repr, Inhabited

/-- The whole body.  Reading stops at the first chunk that takes the total
over the limit, and where the chunks break off. -/
def readBody (limit : Nat) : List Chunk → Except BodyError Bytes
  | [] => .ok []
  | .broken error :: _ => .error error
  | .data bytes :: chunks =>
      if limit < bytes.length then .error .lengthLimit
      else (readBody (limit - bytes.length) chunks).map (bytes ++ ·)

end Switchyard
