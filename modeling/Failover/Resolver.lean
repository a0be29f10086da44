import Failover.Event
/-!
# From hosts to addresses

* `Resolver` : what each host is looked up to, which may be something else each time;
* `Resolver.resolve` : an endpoint as the endpoints of its addresses, on its own port; an endpoint
  whose host has none stands for itself;
* `Resolver.resolveInTurn`, `Resolver.resolveAll` : the same for a list, each place once.
-/

set_option autoImplicit false

namespace Failover

/-- Why a host was not looked up. -/
structure LookupFault where
  kind : IoKind
  text : String
deriving DecidableEq, Repr

/-- A way to look up hosts. What a lookup answers may depend on how many others came before it. -/
structure Resolver where
  lookup : Nat → String → Except LookupFault (List Address)

namespace Resolver

/-- Answers that stay the same. -/
def steady (lookup : String → Except LookupFault (List Address)) : Resolver := ⟨fun _ => lookup⟩

/-- The answers after the first `n`. -/
def after (r : Resolver) (n : Nat) : Resolver := ⟨fun k => r.lookup (n + k)⟩

/-- Looks hosts up in a table; of several entries for a host the last counts. -/
def ofTable (table : List (String × List Address)) : Resolver :=
  steady fun host =>
    match table.reverse.find? fun e => e.1 == host with
    | some e => .ok e.2
    | none => .error ⟨.notFound, "unknown host " ++ host⟩

/-- Knows addresses only, each of which stands for itself. -/
def literals : Resolver :=
  steady fun host =>
    match Address.parse? host with
    | some ip => .ok [ip]
    | none => .error ⟨.other, "failed to lookup address information"⟩

/-- What an endpoint resolves to. -/
def resolve (r : Resolver) (e : Endpoint) : List Endpoint × List Event :=
  match r.lookup 0 e.host with
  | .ok [] => ([e], [.lookupEmpty e.host])
  | .ok ips => (ips.map fun ip => .ofAddress ip e.port, [.hostResolved e.host ips.length])
  | .error f => ([e], [.lookupFailed e.host f.text])

/-- What endpoints resolve to, each place once, in order of first appearance.  Every endpoint comes with
the answers that it finds at its turn. -/
def resolveInTurn (asked : List (Resolver × Endpoint)) : List Endpoint × List Event :=
  (Endpoint.distinct (asked.flatMap fun a => (a.1.resolve a.2).1),
    asked.flatMap fun a => (a.1.resolve a.2).2)

/-- Endpoints with the answers that they find when they are looked up one after another. -/
def turns (r : Resolver) (es : List Endpoint) : List (Resolver × Endpoint) :=
  es.mapIdx fun n e => (r.after n, e)

/-- What endpoints resolve to when they are looked up one after another. -/
def resolveAll (r : Resolver) (es : List Endpoint) : List Endpoint × List Event :=
  resolveInTurn (r.turns es)

end Resolver

end Failover
