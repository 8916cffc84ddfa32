/-
  Switchyard.Site.Dispatch
  ────────────────────────
  From a request to its response.  The first binding that accepts the request
  takes it.  If the binding's answers may be cached and the method only reads,
  a live entry of the cache is the answer; otherwise the body is read, the
  handler runs, and a successful answer is kept.

  `course` says what is to become of a request before any handler runs, and
  `dispatch` carries it out.
-/
import Switchyard.Route.Table
import Switchyard.Site.Handler

namespace Switchyard

/-! ## §1. Requests on arrival. -/

/-- A request whose body is still arriving. -/
structure Arrival where
  method : Method
  path : String
  query : Option String
  headers : Headers
  body : List Chunk
  /-- The address of the other end, as text. -/
  peer : String
  transport : Transport
  deriving Inhabited

namespace Arrival

/-- The request's identifier, empty if it has none that can be read. -/
def id (a : Arrival) : String := (a.headers.text? .xRequestId).getD ""

/-- The request as a handler sees it. -/
def toRequest (a : Arrival) (params : Params) (body : Bytes) : Request :=
  { method := a.method, path := a.path, query := a.query, headers := a.headers, params, body,
    id := a.id, peer := a.peer, transport := a.transport }

def tag (a : Arrival) (binding : String) : RequestTag := ⟨a.id, a.method, a.path, binding⟩

end Arrival

/-- What the clock shows while a request is answered. -/
structure Readings where
  /-- When the cache is asked for an answer. -/
  lookup : Nat
  /-- When the handler's answer is made into an entry. -/
  created : Nat
  /-- When the entry is stored. -/
  stored : Nat
  deriving DecidableEq, Repr, Inhabited

/-! ## §2. What is to become of a request. -/

inductive Course (η : Type) where
  /-- No binding accepts it. -/
  | unmatched
  /-- The cache answers it. -/
  | hit (entry : Entry)
  /-- Its body cannot be read. -/
  | refused (error : BodyError)
  /-- A handler answers it, and the answer is kept under the key if there is one. -/
  | handler (binding : Binding η) (request : Request) (key? : Option CacheKey)

variable {η ω : Type}

/-- The key under which answers to the request are kept, if they may be. -/
def Binding.cacheKey? (b : Binding η) (params : Params) (a : Arrival) : Option CacheKey :=
  if b.cacheable && a.method.isRead then some (.new b.name params a.query) else none

/-- Asks the cache for the answer under a key, if there is a key. -/
def Cache.lookUp (c : Cache) (key? : Option CacheKey) (now : Nat) : Option Entry × Cache :=
  match key? with
  | some key => c.get key now
  | none => (none, c)

/-- What is to become of a request, and the cache after it was asked. -/
def course (routes : RouteTable η) (limit : Nat) (a : Arrival) (now : Nat) (cache : Cache) :
    Course η × Cache :=
  match routes.resolve? a.method a.path with
  | none => (.unmatched, cache)
  | some (binding, params) =>
      let key? := binding.cacheKey? params a
      match cache.lookUp key? now with
      | (some entry, cache) => (.hit entry, cache)
      | (none, cache) =>
          match readBody limit a.body with
          | .error e => (.refused e, cache)
          | .ok body => (.handler binding (a.toRequest params body) key?, cache)

/-! ## §3. Answering. -/

/-- The answer to a request whose body cannot be read.  Whose limit on the length
it was that the body broke does not matter. -/
def BodyError.response (error : BodyError) : Response :=
  .ofStatus (if error.isLengthLimit then .payloadTooLarge else .badRequest)

/-- Keeps a successful answer under a key, if there is a key. -/
def Cache.keep (c : Cache) (key? : Option CacheKey) (response : Response) (t : Readings) : Cache :=
  match key? with
  | some key => if response.status.isSuccess then c.put key ⟨response, t.created⟩ t.stored else c
  | none => c

/-- A request's answer, and what it leaves behind. -/
structure Dispatched (ω : Type) where
  response : Response
  site : Site ω
  events : List Event

/-- Answers a request. -/
def dispatch (handle : Handling η ω) (routes : RouteTable η) (limit : Nat) (a : Arrival)
    (t : Readings) (site : Site ω) : Dispatched ω :=
  match course routes limit a t.lookup site.cache with
  | (.unmatched, cache) => ⟨.notFound, { site with cache }, []⟩
  | (.hit entry, cache) => ⟨entry.hit, { site with cache }, []⟩
  | (.refused e, cache) => ⟨e.response, { site with cache }, []⟩
  | (.handler binding request key?, cache) =>
      let handled := handle binding.handler request { site with cache }
      let response := handled.outcome.response
      { response
        site := { handled.site with cache := handled.site.cache.keep key? response t }
        events := handled.events ++ handled.outcome.events (a.tag binding.name) }

end Switchyard
