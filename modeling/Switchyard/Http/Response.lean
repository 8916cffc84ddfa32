/-
  Switchyard.Http.Response
  ────────────────────────
  Responses as handlers build them: a status, headers and a body, with the
  ready-made ones that the server answers by itself.
-/
import Switchyard.Http.Header
import Switchyard.Http.Status
import Switchyard.Json.Value
import Switchyard.Text.Case

namespace Switchyard

structure Response where
  status : Status
  headers : Headers
  body : Bytes
  deriving DecidableEq, Inhabited

namespace Response

/-! ## §1. Content types. -/

def plainText : String := "text/plain; charset=utf-8"
def htmlText : String := "text/html; charset=utf-8"
def jsonText : String := "application/json"

/-- The content type of a file with the given extension, in any mix of cases. -/
def contentTypeOf (extension : String) : String :=
  match Text.lowercase extension with
  | "html" | "htm" => htmlText
  | "css" => "text/css; charset=utf-8"
  | "js" | "mjs" => "text/javascript; charset=utf-8"
  | "json" => jsonText
  | "txt" => plainText
  | "svg" => "image/svg+xml"
  | "png" => "image/png"
  | "jpg" | "jpeg" => "image/jpeg"
  | "gif" => "image/gif"
  | "ico" => "image/x-icon"
  | "webp" => "image/webp"
  | "woff" => "font/woff"
  | "woff2" => "font/woff2"
  | "pdf" => "application/pdf"
  | _ => "application/octet-stream"

/-! ## §2. Building. -/

/-- A response without headers. -/
def new (status : Status) (body : Bytes) : Response := ⟨status, Headers.empty, body⟩

/-- The response with another status. -/
def withStatus (r : Response) (status : Status) : Response := { r with status }

/-- The response with `value` as the only value of the header `name`. -/
def withHeader (r : Response) (name : HeaderName) (value : HeaderValue) : Response :=
  { r with headers := r.headers.set name value }

/-- The response with all fields of `headers`, which take the place of those
it has of the same names. -/
def withHeaders (r : Response) (headers : Headers) : Response :=
  { r with headers := r.headers.override headers }

/-- The response with the given content type. -/
def withContentType (r : Response) (contentType : String) : Response :=
  r.withHeader .contentType (.ofString contentType)

/-- `200 OK` with a plain text. -/
def text (body : Bytes) : Response := (new .ok body).withContentType plainText

/-- `200 OK` with an HTML page. -/
def html (body : Bytes) : Response := (new .ok body).withContentType htmlText

/-- `200 OK` with a JSON value. -/
def json (value : Json) : Response :=
  (new .ok (Utf8.encode value.print)).withContentType jsonText

/-- A status with its reason phrase as a line of plain text. -/
def ofStatus (status : Status) : Response :=
  let line := status.reason?.getD "Unknown Status" ++ "\n"
  (new status (Utf8.encode line)).withContentType plainText

def notFound : Response := ofStatus .notFound
def internalError : Response := ofStatus .internalServerError

/-- The content type, if there is one that can be read. -/
def contentType? (r : Response) : Option String := r.headers.text? .contentType

end Response

end Switchyard
