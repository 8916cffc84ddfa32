/-
  Switchyard.Site.Handler
  ───────────────────────
  Handlers as functions.  A site is a response cache in front of a world `ω`;
  a handler turns a request and a site into an outcome and a site.  Most
  handlers act on the world alone (`Handling.apart`).
-/
import Switchyard.Cache.Basic
import Switchyard.Http.Request
import Switchyard.Log.Event

namespace Switchyard

/-- How a handler ends. -/
inductive Outcome where
  | reply (response : Response)
  /-- It fails, for causes that are told outermost first. -/
  | failure (causes : List String)
  /-- It panics, with a text if its payload is one. -/
  | panic (text? : Option String)
  deriving DecidableEq, Inhabited

namespace Outcome

/-- What the client gets. -/
def response : Outcome → Response
  | .reply r => r
  | .failure _ | .panic _ => .internalError

/-- What is logged. -/
def events (tag : RequestTag) : Outcome → List Event
  | .reply _ => []
  | .failure causes => [.handlerFailed tag causes]
  | .panic text? => [.handlerPanicked tag text?]

end Outcome

/-- A response cache and the world behind it. -/
structure Site (ω : Type) where
  cache : Cache
  world : ω
  deriving Inhabited

/-- What a handler leaves behind. -/
structure Handled (ω : Type) where
  outcome : Outcome
  site : Site ω
  events : List Event

/-- What the handlers of a type do. -/
abbrev Handling (η ω : Type) := η → Request → Site ω → Handled ω

/-- Handlers that neither see nor change the cache. -/
def Handling.apart {η ω : Type} (act : η → Request → ω → Outcome × ω) : Handling η ω :=
  fun handler request site =>
    let (outcome, world) := act handler request site.world
    { outcome, site := { site with world }, events := [] }

end Switchyard
