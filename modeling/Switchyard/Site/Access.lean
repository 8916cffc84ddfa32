/-
  Switchyard.Site.Access
  ──────────────────────
  Who may use the admin routes: a request whose first `Authorization` header
  is `Bearer ` followed by the key.  The key is compared to the end even where
  it differs, so that the time does not tell how much of it was right.
-/
import Switchyard.Http.Header

namespace Switchyard.Access

/-- Which bits differ in any of the places of two sequences. -/
def difference (presented expected : Bytes) : UInt8 :=
  (presented.zip expected).foldl (fun bits (a, b) => bits ||| (a ^^^ b)) 0

/-- Whether two sequences of octets are the same. -/
def tokensMatch (presented expected : Bytes) : Bool :=
  presented.length = expected.length ∧ difference presented expected = 0

/-- The token that the headers present. -/
def token? (h : Headers) : Option String := do
  let value ← h.text? .authorization
  let rest ← "Bearer ".toList.isPrefixOf? value.toList
  return String.ofList rest

/-- Whether the headers present the key.  An empty key opens nothing. -/
def isGranted (key : String) (h : Headers) : Bool :=
  match token? h with
  | some token => key ≠ "" ∧ tokensMatch (Utf8.encode token) (Utf8.encode key)
  | none => false

end Switchyard.Access
