import Failover.Net.Address
/-!
# Protocols and endpoints

* `Protocol` : the scheme that all nodes of a configuration share, its name and the port that it implies.

An endpoint is a host, an optional port and an optional admin port. Two endpoints name the same place
when host and port agree; the admin port plays no part in that.

* `Endpoint.key` : what identity, order and hash are about;
* `Endpoint.same`, `Endpoint.order` : identity and order;
* `Endpoint.withDefaultPort` : a port where none is set;
* `Endpoint.distinct` : a list without later repetitions.
-/

set_option autoImplicit false

namespace Failover

/-- The scheme shared by the nodes of a configuration. -/
inductive Protocol where
  | http
  | https
deriving DecidableEq, Repr, Inhabited

namespace Protocol

/-- The scheme of URLs. -/
def text : Protocol → String
  | http => "http"
  | https => "https"

/-- The port of nodes that name none. -/
def defaultPort : Protocol → UInt16
  | http => 80
  | https => 443

end Protocol

/-- A place that requests go to. -/
structure Endpoint where
  host : String
  port : Option UInt16
  ownAdminPort : Option UInt16
deriving DecidableEq, Repr, Inhabited

namespace Endpoint

/-- An endpoint without an admin port of its own. -/
def of (host : String) (port : Option UInt16) : Endpoint := ⟨host, port, none⟩

/-- The endpoint of an address. -/
def ofAddress (ip : Address) (port : Option UInt16) : Endpoint := of ip.text port

/-- What endpoints are told apart by. -/
def key (e : Endpoint) : String × Option UInt16 := (e.host, e.port)

/-- Whether two endpoints name the same place. -/
def same (a b : Endpoint) : Bool := a.key == b.key

instance : Hashable Endpoint := ⟨fun e => hash e.key⟩

/-- Order by host, then by port, none first. -/
def order (a b : Endpoint) : Ordering :=
  (compare a.host b.host).then (compare a.port b.port)

/-- The port, or `p` where none is named. -/
def portOr (e : Endpoint) (p : UInt16) : UInt16 := e.port.getD p

/-- The admin port, or else the port. -/
def adminPort (e : Endpoint) : Option UInt16 :=
  match e.ownAdminPort with
  | some p => some p
  | none => e.port

/-- The endpoint with `p` for a port that is not named. -/
def withDefaultPort (e : Endpoint) (p : UInt16) : Endpoint :=
  { e with port := some (e.portOr p) }

/-- The host as it stands in a URL: IPv6 addresses between brackets. -/
def urlHost (e : Endpoint) : String :=
  if (Ipv6.parse? e.host.toList).isSome then "[" ++ e.host ++ "]" else e.host

/-- Host and port as they stand in a URL. -/
def text (e : Endpoint) : String :=
  match e.port with
  | some p => e.urlHost ++ ":" ++ String.ofList (Text.decimal p.toNat)
  | none => e.urlHost

/-- Adds an endpoint behind the others unless one of them names the same place. -/
def insertNew (seen : List Endpoint) (e : Endpoint) : List Endpoint :=
  if seen.any (·.same e) then seen else seen ++ [e]

/-- The list without every endpoint that names the same place as an earlier one. -/
def distinct (es : List Endpoint) : List Endpoint :=
  es.foldl insertNew []

@[simp] theorem same_iff {a b : Endpoint} : a.same b = true ↔ a.host = b.host ∧ a.port = b.port := by
  simp [same, key]

/-- A port that is named stays. -/
theorem withDefaultPort_of_some {e : Endpoint} {p q : UInt16} (h : e.port = some p) :
    e.withDefaultPort q = e := by
  cases e
  simp_all [withDefaultPort, portOr]

end Endpoint

end Failover
