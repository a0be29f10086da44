import Failover.Endpoint.Reader
import Failover.Http.Header
import Failover.Json.Reader
import Failover.Url.Reader
/-!
# Requests

* `Request` : method, URL, headers and an optional body;
* `Request.endpoint` : the endpoint that it aims at;
* `Request.retarget` : the same request aimed at another endpoint.
-/

set_option autoImplicit false

namespace Failover

/-- An outgoing request. -/
structure Request where
  method : Method
  url : Url
  headers : Headers
  body : Option Bytes
deriving DecidableEq, Repr

namespace Request

/-- A request to the URL that a text spells. -/
def parse [DomainNames] (method : Method) (url : String) : Except Failure Request :=
  match Url.parse url with
  | .ok u => .ok ⟨method, u, .empty, none⟩
  | .error f => .error (.invalidRequest (.badUrl url f))

/-- The request with one header set. -/
def setHeader (r : Request) (name : HeaderName) (value : HeaderValue) : Request :=
  { r with headers := r.headers.set name value }

/-- The request with one header set, from texts. -/
def tryHeader (r : Request) (name value : String) : Except Failure Request :=
  match HeaderName.parse? name with
  | none => .error (.invalidRequest (.badHeaderName name))
  | some n =>
    match HeaderValue.ofText? value with
    | none => .error (.invalidRequest (.badHeaderValue n.text))
    | some v => .ok (r.setHeader n v)

/-- The request with headers set one after another. -/
def tryHeaders (r : Request) : List (String × String) → Except Failure Request
  | [] => .ok r
  | (name, value) :: rest => (r.tryHeader name value).bind fun r => tryHeaders r rest

/-- The request with a body. -/
def withBody (r : Request) (body : Bytes) : Request := { r with body := some body }

/-- The request with a JSON value as its body. -/
def withJson (r : Request) (v : Json) : Request :=
  (r.setHeader .contentType ⟨Text.Utf8.encode "application/json".toList⟩).withBody
    (Text.Utf8.encode v.sorted.chars)

/-- Whether the request goes over TLS. -/
def isSecure (r : Request) : Bool := r.url.scheme == "https"

/-- The endpoint that the request aims at. -/
def endpoint (r : Request) : Except Failure Endpoint := Endpoint.ofUrl r.url

/-- The same request aimed at the endpoint. -/
def retarget [DomainNames] (r : Request) (e : Endpoint) : Except Failure Request :=
  match r.url.setHost e.urlHost with
  | .error f => .error (.invalidRequest (.badHost e f))
  | .ok u =>
    match u.setPort? e.port with
    | none => .error (.invalidRequest (.noPort u.text))
    | some u => .ok { r with url := u }

/-- Host and port of the URL, with the port that its scheme implies, or else 80. -/
def authorityText (r : Request) : String :=
  (match r.url.host? with | some h => h.text | none => "") ++ ":"
    ++ Url.portText (r.url.effectivePort?.getD 80)

end Request

end Failover
