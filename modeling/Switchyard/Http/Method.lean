/-
  Switchyard.Http.Method
  ──────────────────────
  Request methods and the characters of an HTTP token (RFC 9110, 5.6.2).
-/

namespace Switchyard

/-- A character that may stand in a token: a method or a header name. -/
def isTokenChar (c : Char) : Bool :=
  c.isAlphanum || "!#$%&'*+-.^_`|~".toList.contains c

/-- A request method.  Methods are case-sensitive, so `get` is not `GET`. -/
structure Method where
  token : String
  deriving DecidableEq, Repr, Inhabited

namespace Method

def get : Method := ⟨"GET"⟩
def head : Method := ⟨"HEAD"⟩
def post : Method := ⟨"POST"⟩

/-- Whether the text is a token, as every method of a well-formed request is. -/
def IsToken (m : Method) : Prop := m.token ≠ "" ∧ m.token.toList.all isTokenChar

instance (m : Method) : Decidable m.IsToken := inferInstanceAs (Decidable (_ ∧ _))

/-- The methods that only read: their answers may be cached. -/
def isRead (m : Method) : Bool := m = get ∨ m = head

end Method

end Switchyard
