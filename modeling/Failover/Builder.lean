import Failover.Client.Basic
import Failover.Configuration.Basic
import Failover.Provider.Source
import Failover.Provider.Tree
/-!
# Building clients

* `Builder` : what has been asked of a client so far;
* `Call`, `Builder.call`, `Builder.ofCalls` : asking for one thing, and for several in order;
* `Builder.build` : the client and its provider, or what is missing or wrong.
-/

set_option autoImplicit false

namespace Failover

/-- What has been asked of a client so far. A provider that was given takes the place of the nodes, and
the patterns of hidden headers come on top of the usual ones. -/
structure Builder where
  shortName : Option String
  configuration : Option Configuration
  primaryNodes : List Endpoint
  secondaryNodes : List Endpoint
  primary : Option Provider
  secondary : Option Provider
  strategy : Strategy
  useAdminPorts : Bool
  retryNonIdempotent : Bool
  policy : Option Policy
  transactionHeader : Option String
  resolver : Option Resolver
  protocol : Option Protocol
  hidden : List String

/-- One thing asked of a client. `anewForTesting` forgets all calls before it and begins with one local
node. -/
inductive Call where
  | named (name : String)
  | configured (c : Configuration)
  | anewForTesting (host : String) (port : UInt16)
  | nodes (primary secondary : List Endpoint)
  | primary (p : Provider)
  | secondary (p : Provider)
  | strategy (s : Strategy)
  | adminPorts
  | retrying (b : Bool)
  | policy (p : Policy)
  | transactionHeader (name : String)
  | resolver (r : Resolver)
  | protocol (p : Protocol)
  | hiding (pattern : String)

/-- To find candidates by looking hosts up. -/
def Call.lookups : Call := .strategy .dynamicRandomIp

/-- To pass transaction ids on in the usual header. -/
def Call.propagation : Call := .transactionHeader "X-Request-Id"

namespace Builder

/-- Before anything was asked. -/
def empty : Builder :=
  ⟨none, none, [], [], none, none, .loadBalanced, false, false, none, none, none, none, []⟩

/-- Takes over what a configuration says. A policy that was set stays, and so does a transaction
header where the configuration has none. -/
def configure (b : Builder) (c : Configuration) : Builder :=
  { b with
    configuration := some c
    primaryNodes := c.primaryNodes
    secondaryNodes := c.secondaryNodes
    strategy := c.strategy
    retryNonIdempotent := c.retryNonIdempotent
    policy := some (b.policy.getD c.continuation.policy)
    transactionHeader := match c.transactionHeader with
      | some h => some h
      | none => b.transactionHeader }

/-- Asks for one thing more. -/
def call (b : Builder) : Call → Builder
  | .named name => { b with shortName := some name }
  | .configured c => b.configure c
  | .anewForTesting host port => empty.configure (.forTesting host port)
  | .nodes primary secondary => { b with primaryNodes := primary, secondaryNodes := secondary }
  | .primary p => { b with primary := some p }
  | .secondary p => { b with secondary := some p }
  | .strategy s => { b with strategy := s }
  | .adminPorts => { b with useAdminPorts := true }
  | .retrying r => { b with retryNonIdempotent := r }
  | .policy p => { b with policy := some p }
  | .transactionHeader name => { b with transactionHeader := some name }
  | .resolver r => { b with resolver := some r }
  | .protocol p => { b with protocol := some p }
  | .hiding pattern => { b with hidden := b.hidden ++ [pattern] }

/-- Asks for several things in order. -/
def ofCalls (calls : List Call) : Builder := calls.foldl call empty

/-- One thing more is asked of what was asked before. -/
theorem ofCalls_append (calls : List Call) (c : Call) :
    ofCalls (calls ++ [c]) = (ofCalls calls).call c := by
  simp [ofCalls, List.foldl_append]

/-- The name that a configuration gives: its own, or host and port of its first node. -/
def nameOf (c : Configuration) (admin : Bool) : Option String :=
  match c.shortName, c.firstNode? with
  | some name, _ => some name
  | none, some node =>
    let port := (if admin then node.adminPort else node.port).getD c.protocol.defaultPort
    some (node.host ++ "-" ++ String.ofList (Text.decimal port.toNat))
  | none, none => none

/-- The name of the client. A name that is not its own says whether nodes are addressed on their admin
ports. -/
def name (b : Builder) : Except Failure String :=
  match b.shortName, b.configuration.bind (nameOf · b.useAdminPorts) with
  | some name, _ => .ok name
  | none, some name => .ok (if b.useAdminPorts then name ++ "-admin" else name)
  | none, none => .error (.configuration .noShortName)

/-- The source that the strategy makes of nodes. -/
def sourceOf (b : Builder) (dice : Dice) (nodes : List Endpoint) : Except Failure Provider :=
  (b.strategy.source b.useAdminPorts (b.resolver.getD .literals) dice nodes).map .leaf

/-- Whether the strategy gets along without nodes. -/
def needsNodes (b : Builder) : Bool :=
  match b.strategy with
  | .empty => false
  | .dynamicRandomIp => false
  | _ => true

/-- The provider that is asked first. -/
def primaryProvider (b : Builder) (dice : Dice) (name : String) : Except Failure Provider :=
  match b.primary with
  | some p => .ok p
  | none =>
    if b.primaryNodes.isEmpty && b.needsNodes then .error (.configuration (.noProvider name))
    else b.sourceOf dice b.primaryNodes

/-- The provider that is asked afterwards, if there is one. -/
def secondaryProvider (b : Builder) (dice : Dice) : Except Failure (Option Provider) :=
  match b.secondary with
  | some p => .ok (some p)
  | none =>
    if b.secondaryNodes.isEmpty then .ok none else (b.sourceOf dice b.secondaryNodes).map some

/-- The header for transaction ids, if there is one. -/
def header (b : Builder) : Except Failure (Option HeaderName) :=
  match b.transactionHeader with
  | none => .ok none
  | some h =>
    match HeaderName.parse? h with
    | some n => .ok (some n)
    | none => .error (.configuration (.badTransactionHeader h))

/-- The protocol that the client names. -/
def clientProtocol (b : Builder) : Protocol :=
  match b.protocol, b.configuration with
  | some p, _ => p
  | none, some c => c.protocol
  | none, none => .http

/-- The client and its provider. A library compiles the patterns of hidden headers, and orders that are
random come of the dice. -/
def build (b : Builder) (library : PatternLibrary) (dice : Dice) :
    Except Failure (Client × Provider) := do
  let name ← b.name
  let primary ← b.primaryProvider dice.halves.1 name
  let secondary ← b.secondaryProvider dice.halves.2
  let header ← b.header
  let filter ← HeaderFilter.withExtra library b.hidden
  let client : Client :=
    ⟨name, b.clientProtocol, b.policy.getD .eachOnce, b.retryNonIdempotent, header, filter⟩
  pure (client, primary.followedBy secondary)

end Builder

end Failover
