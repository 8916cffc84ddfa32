/-
  Switchyard.Server.Exchange
  ──────────────────────────
  One request and its response on a connection.  A request without an
  identifier gets one, and the response carries the request's identifier and
  the server's name unless its handler set them.
-/
import Switchyard.Http.RequestId
import Switchyard.Http.Target
import Switchyard.Http.Wire
import Switchyard.Server

namespace Switchyard

/-- The headers with a value for a name that has none. -/
def Headers.supply (h : Headers) (n : HeaderName) (v : HeaderValue) : Headers :=
  if h.get? n = none then h.set n v else h

/-- A request off the wire, with an identifier. -/
def Arrival.ofHead (head : Wire.Head) (body : Bytes) (freshId : HeaderValue) (peer : String)
    (transport : Transport) : Arrival :=
  let target := Target.parse head.target
  { method := head.method, path := target.path, query := target.query
    headers := head.headers.supply .xRequestId freshId
    body := [.data body], peer, transport }

/-- A response as it leaves the server. -/
def Response.signed (r : Response) (a : Arrival) : Response :=
  let headers := match a.headers.get? .xRequestId with
    | some id => r.headers.supply .xRequestId id
    | none => r.headers
  { r with headers := headers.supply .server (.ofString (programName ++ "/" ++ version)) }

namespace Server

variable {α ω : Type}

/-- Answers a request. -/
def exchange (app : Handling α (Context α ω)) (s : Server α ω) (a : Arrival) (t : Readings) :
    Response × Server α ω × List Event :=
  let c := s.context
  let d := dispatch (Endpoint.handle app) c.routes c.config.listener.maxBodyBytes a t s.site
  (d.response.signed a, { s with site := d.site }, d.events)

/-- The file that the answer to a request may be read from. -/
def fileFor? (s : Server α ω) (a : Arrival) : Option String :=
  match s.context.routes.resolve? a.method a.path with
  | some ({ handler := .files source, .. }, params) => source.target? params
  | _ => none

end Server

end Switchyard
