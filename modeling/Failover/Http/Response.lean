import Failover.Fault
import Failover.Http.Header
import Failover.Json.Reader
/-!
# Responses

* `Body` : nothing, bytes in memory, or chunks that are still to be read;
* `Response.drain` : reads what is still to be read, so that nothing streams any more, and keeps up
  to 64 KiB of it;
* `Response.bytes`, `Response.text`, `Response.json` : the whole body.
-/

set_option autoImplicit false

namespace Failover

/-- What reading a live body gives next: bytes, or the fault of its connection. -/
inductive Chunk where
  | data (bytes : Bytes)
  | failure (fault : Fault)
deriving DecidableEq, Repr

/-- A body that is still attached to its connection, with its length if it is known beforehand. -/
structure Stream where
  chunks : List Chunk
  length : Option Nat
deriving DecidableEq, Repr

/-- The body of a response. -/
inductive Body where
  | empty
  | buffered (bytes : Bytes)
  | streaming (stream : Stream)
deriving DecidableEq, Repr

/-- An answer. -/
structure Response where
  status : Nat
  headers : Headers
  body : Body
deriving DecidableEq, Repr

/-- Status codes have three digits. -/
def isStatus (n : Nat) : Bool := 100 ≤ n && n < 1000

/-- The phrases that go with status codes. -/
def reasons : List (Nat × String) :=
  [(100, "Continue"), (101, "Switching Protocols"), (102, "Processing"), (103, "Early Hints"),
   (200, "OK"), (201, "Created"), (202, "Accepted"), (203, "Non Authoritative Information"),
   (204, "No Content"), (205, "Reset Content"), (206, "Partial Content"), (207, "Multi-Status"),
   (208, "Already Reported"), (226, "IM Used"),
   (300, "Multiple Choices"), (301, "Moved Permanently"), (302, "Found"), (303, "See Other"),
   (304, "Not Modified"), (305, "Use Proxy"), (307, "Temporary Redirect"),
   (308, "Permanent Redirect"),
   (400, "Bad Request"), (401, "Unauthorized"), (402, "Payment Required"), (403, "Forbidden"),
   (404, "Not Found"), (405, "Method Not Allowed"), (406, "Not Acceptable"),
   (407, "Proxy Authentication Required"), (408, "Request Timeout"), (409, "Conflict"),
   (410, "Gone"), (411, "Length Required"), (412, "Precondition Failed"),
   (413, "Payload Too Large"), (414, "URI Too Long"), (415, "Unsupported Media Type"),
   (416, "Range Not Satisfiable"), (417, "Expectation Failed"), (418, "I'm a teapot"),
   (421, "Misdirected Request"), (422, "Unprocessable Entity"), (423, "Locked"),
   (424, "Failed Dependency"), (425, "Too Early"), (426, "Upgrade Required"),
   (428, "Precondition Required"), (429, "Too Many Requests"),
   (431, "Request Header Fields Too Large"), (451, "Unavailable For Legal Reasons"),
   (500, "Internal Server Error"), (501, "Not Implemented"), (502, "Bad Gateway"),
   (503, "Service Unavailable"), (504, "Gateway Timeout"), (505, "HTTP Version Not Supported"),
   (506, "Variant Also Negotiates"), (507, "Insufficient Storage"), (508, "Loop Detected"),
   (510, "Not Extended"), (511, "Network Authentication Required")]

/-- A status code with its phrase. -/
def statusText (n : Nat) : String :=
  String.ofList (Text.decimal n) ++ " " ++
    ((reasons.find? (·.1 == n)).map (·.2)).getD "<unknown status code>"

namespace Response

/-- The statuses after which another endpoint is tried. -/
def isRecoverableStatus (status : Nat) : Bool :=
  status == 500 || status == 503 || status == 504

/-- Whether another endpoint is tried after this answer. -/
def isRecoverable (r : Response) : Bool := isRecoverableStatus r.status

/-- Whether the status blames the server. -/
def isServerError (r : Response) : Bool := 500 ≤ r.status && r.status < 600

/-- Whether the body is still attached to its connection. -/
def isStreaming (r : Response) : Bool :=
  match r.body with
  | .streaming _ => true
  | _ => false

/-- A header as a whole number: an optional plus sign, then digits, of value below 2^64. -/
def lengthHeader? (h : Headers) : Option Nat := do
  let v ← h.get? .contentLength
  let t ← v.text?
  let digits := match t.toList with
    | '+' :: r => r
    | r => r
  let n ← Text.number? 10 digits
  if n < 18446744073709551616 then pure n else none

/-- The length of the body, where it is known without reading. -/
def contentLength? (r : Response) : Option Nat :=
  match r.body with
  | .empty => some 0
  | .buffered b => some b.length
  | .streaming s =>
    match s.length with
    | some n => some n
    | none => lengthHeader? r.headers

/-- The kind of the body. -/
def contentType? (r : Response) : Option String :=
  (r.headers.get? .contentType).bind (·.text?)

/-- The largest body that draining keeps. -/
def drainLimit : Nat := 65536

/-- Reads chunks behind the bytes kept so far; none if they are too many. -/
def collect (kept : Bytes) : List Chunk → Except Fault (Option Bytes)
  | [] => .ok (some kept)
  | .failure f :: _ => .error (.wrapped "draining response body" f)
  | .data b :: r =>
    if drainLimit < kept.length + b.length then .ok none else collect (kept ++ b) r

/-- Reads what is still to be read: the response left, and what went wrong. The time that it takes is left
out. -/
def drain (r : Response) : Response × Except Fault Unit :=
  match r.body with
  | .streaming s =>
    match collect [] s.chunks with
    | .ok (some b) => ({ r with body := .buffered b }, .ok ())
    | .ok none => ({ r with body := .empty }, .ok ())
    | .error f => ({ r with body := .empty }, .error f)
  | _ => (r, .ok ())

/-- Whether draining drops the body because too many bytes come. -/
def isOversized (r : Response) : Bool :=
  match r.body with
  | .streaming s =>
    match collect [] s.chunks with
    | .ok none => true
    | _ => false
  | _ => false

/-- All bytes of the chunks, unless the connection fails. -/
def concatenated : List Chunk → Except Fault Bytes
  | [] => .ok []
  | .failure f :: _ => .error f
  | .data b :: r => (concatenated r).map (b ++ ·)

/-- The whole body. -/
def bytes (r : Response) : Except Fault Bytes :=
  match r.body with
  | .empty => .ok []
  | .buffered b => .ok b
  | .streaming s => concatenated s.chunks

/-- The whole body as text. -/
def text (r : Response) : Except Fault String :=
  r.bytes.bind fun b =>
    match Text.Utf8.decode? b with
    | some t => .ok (String.ofList t)
    | none => .error (.other "response body is not UTF-8")

/-- The whole body as a JSON value. -/
def json (r : Response) : Except Fault Json :=
  r.bytes.bind fun b =>
    match (Text.Utf8.decode? b).map Json.ofText with
    | some (.ok v) => .ok v
    | _ => .error (.other "decoding JSON body")

end Response

end Failover
