import Failover.Failure
import Failover.Json.Reader
/-!
# Reading endpoints

* `Endpoint.parse` : `host`, `host:port`, `[address]`, `[address]:port` or a bare IPv6 address, with
  blanks around it;
* `Endpoint.ofUrl` : the endpoint that a URL points at;
* `Endpoint.toJson` : an object with `host` and, where they are set, `port` and `adminPort`;
* `Endpoint.ofTokens`, `Endpoint.ofJsonText` : reading it; other fields are passed over, and a list of
  the three values in order is read too.
-/

set_option autoImplicit false

namespace Failover.Endpoint

/-! ## Texts and URLs -/

/-- Host text and port text of a text without blanks around it. -/
def split? (s : List Char) : Option (List Char × Option (List Char)) :=
  match s with
  | '[' :: r =>
    match Text.cut ']' r with
    | none => none
    | some (host, []) => some (host, none)
    | some (host, ':' :: port) => some (host, some port)
    | some _ => none
  | _ =>
    if (Ipv6.parse? s).isSome then some (s, none)
    else match Text.cut ':' s with
      | some (host, port) => some (host, some port)
      | none => some (s, none)

/-- Reads an endpoint, if the text is one. -/
def parse? (text : String) : Option Endpoint :=
  match split? (Text.trim text.toList) with
  | none => none
  | some ([], _) => none
  | some (host, none) => some (of (String.ofList host) none)
  | some (host, some port) => (Text.port? port).map fun p => of (String.ofList host) (some p)

/-- Reads an endpoint. -/
def parse (text : String) : Except Failure Endpoint :=
  match parse? text with
  | some e => .ok e
  | none => .error (.invalidEndpoint text)

/-- The text without its leading opening and its trailing closing brackets. -/
def withoutBrackets (s : List Char) : List Char :=
  ((s.dropWhile (· == '[')).reverse.dropWhile (· == ']')).reverse

/-- The endpoint that a URL points at; its port is the one that the URL spells out. -/
def ofUrl (u : Url) : Except Failure Endpoint :=
  match u.host? with
  | none => .error (.invalidRequest (.noHost u.text))
  | some h => .ok (of (String.ofList (withoutBrackets h.text.toList)) u.port?)

/-! ## JSON -/

/-- The object of an endpoint. -/
def toJson (e : Endpoint) : Json :=
  .object ([("host", .string e.host)]
    ++ (match e.port with | some p => [("port", .ofNat p.toNat)] | none => [])
    ++ (match e.ownAdminPort with | some p => [("adminPort", .ofNat p.toNat)] | none => []))

/-- The fields read so far; a port that was given as `null` has been read. -/
structure Fields where
  host : Option String
  port : Option (Option UInt16)
  adminPort : Option (Option UInt16)

/-- Reads a port or `null`. -/
def readPort : Json.Reader (Option UInt16) := fun ts =>
  (Json.readOption (Json.readNat 65536) ts).map fun p => (p.1.map UInt16.ofNat, p.2)

/-- Takes in one field. -/
def Fields.step (s : Fields) (name : String) (ts : List Json.Token) :
    Except Json.Mistake (Fields × List Json.Token) :=
  match name with
  | "host" =>
    if s.host.isSome then .error (.duplicateField "host")
    else (Json.readField Json.readString ts).map fun p => ({ s with host := some p.1 }, p.2)
  | "port" =>
    if s.port.isSome then .error (.duplicateField "port")
    else (Json.readField readPort ts).map fun p => ({ s with port := some p.1 }, p.2)
  | "adminPort" =>
    if s.adminPort.isSome then .error (.duplicateField "adminPort")
    else (Json.readField readPort ts).map fun p => ({ s with adminPort := some p.1 }, p.2)
  | _ => ((Json.readColon ts).bind Json.skipValue).map fun r => (s, r)

/-- The endpoint of the fields. -/
def Fields.endpoint? (s : Fields) : Except Json.Mistake Endpoint :=
  match s.host with
  | none => .error (.missingField "host")
  | some h => .ok ⟨h, s.port.getD none, s.adminPort.getD none⟩

/-- Reads an endpoint as an object, or as a list of its three values. -/
def ofTokens : Json.Reader Endpoint
  | .openObject :: r => do
    let (s, r) ← Json.readFields Fields.step ⟨none, none, none⟩ r
    let e ← s.endpoint?
    pure (e, r)
  | .openArray :: r => do
    let (s, r) ← Json.readPlaces Fields.step ["host", "port", "adminPort"] ⟨none, none, none⟩ r
    if s.host.isNone then throw .wrongLength
    let e ← s.endpoint?
    pure (e, r)
  | ts => .error (Json.unexpected ts)

/-- Reads the JSON text of an endpoint. -/
def ofJsonText (text : String) : Except Json.Mistake Endpoint :=
  Json.readAll ofTokens (Json.scan text.toList)

end Failover.Endpoint
