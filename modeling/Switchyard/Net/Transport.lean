/-
  Switchyard.Net.Transport
  ────────────────────────
  The two ways in which a connection carries requests, and their names.
-/
import Switchyard.Text.Blank
import Switchyard.Text.Case

namespace Switchyard

inductive Transport where
  | plain
  | tls
  deriving DecidableEq, Repr, Inhabited

/-- A name that is no transport's, as it was given. -/
structure UnknownTransport where
  name : String
  deriving DecidableEq, Repr

def UnknownTransport.message (e : UnknownTransport) : String :=
  s!"unknown transport `{e.name}`"

namespace Transport

/-- The URL scheme of the transport. -/
def scheme : Transport → String
  | .plain => "http"
  | .tls => "https"

/-- The transport with the given scheme, whatever blanks and capital letters
the name is written with. -/
def ofName (name : String) : Except UnknownTransport Transport :=
  match Text.lowercase (Text.withoutBlanks name) with
  | "http" => .ok .plain
  | "https" => .ok .tls
  | _ => .error ⟨name⟩

end Transport

end Switchyard
