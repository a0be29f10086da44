import Failover.Failure
import Failover.Text.Basic
import Failover.Text.Classes
/-!
# Node texts

A node is written `[http[s]://]host[:port[:adminPort]]`, with blanks around it.

* `NodeText.parse?` : the parts of a node text, digits not yet read;
* `Node.read` : one node, given the protocol of the nodes before it;
* `Node.readGroup` : a list of nodes, which share one protocol; repetitions are dropped.
-/

set_option autoImplicit false

namespace Failover

/-- The parts of a node text, with the digits of its ports. -/
structure NodeText where
  protocol : Option Protocol
  host : List Char
  port : Option (List Char)
  adminPort : Option (List Char)
deriving DecidableEq, Repr

namespace NodeText

/-- The protocol at the front, if it is written, and the rest. -/
def scheme : List Char → Option Protocol × List Char
  | 'h' :: 't' :: 't' :: 'p' :: ':' :: '/' :: '/' :: r => (some .http, r)
  | 'h' :: 't' :: 't' :: 'p' :: 's' :: ':' :: '/' :: '/' :: r => (some .https, r)
  | s => (none, s)

/-- The digits behind a colon, which are all that is left. -/
def lastPort? : List Char → Option (List Char)
  | ':' :: d => if !d.isEmpty && d.all Text.isDecimalDigit then some d else none
  | _ => none

/-- The digits of both ports, if they are written. -/
def ports? : List Char → Option (Option (List Char) × Option (List Char))
  | [] => some (none, none)
  | ':' :: r =>
    let d := r.takeWhile Text.isDecimalDigit
    if d.isEmpty then none
    else match r.dropWhile Text.isDecimalDigit with
      | [] => some (some d, none)
      | rest => (lastPort? rest).map fun a => (some d, some a)
  | _ => none

/-- The parts of a text without blanks around it. -/
def parse? (s : List Char) : Option NodeText :=
  let (protocol, rest) := scheme s
  let host := rest.takeWhile (· != ':')
  if host.isEmpty then none
  else (ports? (rest.dropWhile (· != ':'))).map fun p => ⟨protocol, host, p.1, p.2⟩

end NodeText

namespace Node

/-- A port of ASCII digits below 2^16. -/
def port? (digits : List Char) : Option UInt16 :=
  (Text.number? 10 digits).bind fun n => if n < 65536 then some (UInt16.ofNat n) else none

/-- A failure that is a matter of the node text. -/
def fail {α : Type} (m : Misconfiguration) : Except Failure α := .error (.configuration m)

/-- The port that the digits spell, or `other` where there are none. -/
def portOr (node : String) (other : UInt16) : Option (List Char) → Except Failure UInt16
  | none => .ok other
  | some d =>
    match port? d with
    | some p => .ok p
    | none => fail (.badNodePort node)

/-- Reads one node; `group` is the protocol of the nodes before it. -/
def read (group : Option Protocol) (raw : String) : Except Failure (Endpoint × Protocol) :=
  let node := String.ofList (Text.trim raw.toList)
  match NodeText.parse? (Text.trim raw.toList) with
  | none => fail (.badNode node)
  | some parts =>
    match group, parts.protocol with
    | some g, some p =>
      if g = p then finish node parts g else fail (.mixedProtocols g node)
    | some g, none => finish node parts g
    | none, some p => finish node parts p
    | none, none => finish node parts .http
where
  /-- The endpoint of the parts under a protocol. -/
  finish (node : String) (parts : NodeText) (p : Protocol) : Except Failure (Endpoint × Protocol) := do
    let port ← portOr node p.defaultPort parts.port
    let admin ← portOr node port parts.adminPort
    pure (⟨String.ofList parts.host, some port, some admin⟩, p)

/-- Reads further nodes behind those read so far. -/
def readOnto (nodes : List Endpoint) (group : Option Protocol) :
    List String → Except Failure (List Endpoint × Option Protocol)
  | [] => .ok (nodes, group)
  | raw :: rest =>
    match read group raw with
    | .error f => .error f
    | .ok (e, p) => readOnto (Endpoint.insertNew nodes e) (some p) rest

/-- Reads a list of nodes; `group` is the protocol of the nodes of an earlier list. -/
def readGroup (group : Option Protocol) (raw : List String) :
    Except Failure (List Endpoint × Option Protocol) :=
  readOnto [] group raw

/-- The text of a node under a protocol, with both ports. -/
def text (p : Protocol) (e : Endpoint) : String :=
  let port := e.portOr p.defaultPort
  let admin := e.adminPort.getD port
  (match p with | .http => "" | .https => "https://") ++ e.host
    ++ ":" ++ String.ofList (Text.decimal port.toNat)
    ++ ":" ++ String.ofList (Text.decimal admin.toNat)

end Node

end Failover
