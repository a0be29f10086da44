import Failover.Configuration.Strategy
import Failover.Resolver
import Failover.Shuffle
/-!
# Where candidates come from

* `Reply` : an answer with the state that it leaves and the events on the way;
* `Roster` : anything that offers candidates for an endpoint, knows which endpoints it can stand in
  for, and hears of failures;
* `Source` : nothing, a fixed list in order or shuffled, addresses of a list or of whatever is asked
  for, and two sources for rehearsals that keep a record;
* `Source.roster` : how each of them answers;
* `Strategy.source` : the source that a strategy makes of a list of nodes.
-/

set_option autoImplicit false

namespace Failover

/-! ## Rosters -/

/-- An answer, the state after it, and what was logged. -/
structure Reply (σ α : Type) where
  value : α
  state : σ
  events : List Event

namespace Reply

variable {σ τ α : Type}

/-- An answer that leaves the state as it is. -/
def of (value : α) (state : σ) : Reply σ α := ⟨value, state, []⟩

/-- The reply with the state put into a larger one. -/
def mapState (f : σ → τ) (r : Reply σ α) : Reply τ α := ⟨r.value, f r.state, r.events⟩

@[simp] theorem value_mapState (f : σ → τ) (r : Reply σ α) : (r.mapState f).value = r.value := rfl

@[simp] theorem events_mapState (f : σ → τ) (r : Reply σ α) : (r.mapState f).events = r.events :=
  rfl

end Reply

/-- A source of candidates whose states are `σ`. It offers candidates in the order in which they should be
tried, tells whether it can stand in for an endpoint, and hears that one failed. It answers at once: the
time that a lookup takes is left out, so that a caller gives up before a lookup or after it. -/
structure Roster (σ : Type) where
  candidates : Endpoint → σ → Reply σ (List Endpoint)
  supports : σ → Endpoint → Bool
  report : Endpoint → σ → Reply σ (Except Failure Unit)

/-! ## Sources -/

/-- A fixed list that records the failures it hears of. It stands in for every endpoint, or for those that
it offers. -/
structure Recording where
  label : String
  nodes : List Endpoint
  supportsAll : Bool
  failures : List Endpoint
deriving DecidableEq, Repr

/-- Lists that are offered one after another, the last again and again. It counts how often it was asked,
and records the failures it hears of unless it refuses them. -/
structure Sequence where
  label : String
  lists : List (List Endpoint)
  rejects : Bool
  failures : List Endpoint
  calls : Nat
deriving DecidableEq, Repr

/-- The list that is offered at the next call. -/
def Sequence.current (s : Sequence) : List Endpoint :=
  (s.lists[min s.calls (s.lists.length - 1)]?).getD []

/-- A single source of candidates: nothing, a fixed list in its order, the list or the addresses of its
hosts in a fresh random order each time, the addresses of the endpoint asked for, and lists with a
record. -/
inductive Source where
  | null
  | fixed (nodes : List Endpoint)
  | shuffled (nodes : List Endpoint) (dice : Dice)
  | shuffledAddresses (nodes : List Endpoint) (resolver : Resolver) (dice : Dice)
  | lookup (resolver : Resolver)
  | recording (r : Recording)
  | sequence (s : Sequence)

namespace Source

/-- Whether a list holds the host on this port; a missing port matches every port. -/
def lists (nodes : List Endpoint) (e : Endpoint) : Bool :=
  nodes.any fun n =>
    n.host == e.host && match n.port, e.port with
      | some p, some q => p == q
      | _, _ => true

/-- Candidates for an endpoint. -/
def candidates (e : Endpoint) : Source → Reply Source (List Endpoint)
  | null => .of [] null
  | fixed nodes => .of nodes (fixed nodes)
  | shuffled nodes dice =>
    let r := permute dice nodes
    .of r.1 (shuffled nodes r.2)
  | shuffledAddresses nodes resolver dice =>
    let found := resolver.resolveAll nodes
    let r := permute dice found.1
    ⟨r.1, shuffledAddresses nodes resolver r.2, found.2⟩
  | lookup resolver =>
    let found := resolver.resolve e
    ⟨found.1, lookup resolver, found.2⟩
  | recording r => .of r.nodes (recording r)
  | sequence s => .of s.current (sequence { s with calls := s.calls + 1 })

/-- Whether the source can stand in for an endpoint. -/
def supports : Source → Endpoint → Bool
  | null, _ => false
  | fixed nodes, e => lists nodes e
  | shuffled nodes _, e => lists nodes e
  | shuffledAddresses nodes _ _, e => lists nodes e
  | lookup _, _ => true
  | recording r, e => r.supportsAll || r.nodes.any (·.same e)
  | sequence _, _ => true

/-- Hears that an endpoint failed. -/
def report (e : Endpoint) (s : Source) : Reply Source (Except Failure Unit) :=
  match s with
  | null => .of (.error (.unmanagedEndpoint e)) s
  | recording r =>
    if s.supports e then .of (.ok ()) (recording { r with failures := r.failures ++ [e] })
    else .of (.error (.unmanagedEndpoint e)) s
  | sequence q =>
    if q.rejects then .of (.error (.unmanagedEndpoint e)) s
    else .of (.ok ()) (sequence { q with failures := q.failures ++ [e] })
  | s => ⟨.ok (), s, [.hostFailed e]⟩

/-- The source as a roster. -/
def roster : Roster Source := ⟨candidates, supports, report⟩

end Source

/-! ## Sources by strategy -/

/-- The node on its admin port. -/
def Endpoint.onAdminPort (e : Endpoint) : Endpoint := .of e.host e.adminPort

namespace Strategy

/-- The source of nodes for a strategy that works with nodes; no nodes, no candidates. -/
def sourceOfNodes (s : Strategy) (resolver : Resolver) (dice : Dice) (nodes : List Endpoint) :
    Source :=
  if nodes.isEmpty then .null
  else
    match s with
    | simpleFailover => .fixed nodes
    | loadBalanced => .shuffled nodes dice
    | loadBalancedIp => .shuffledAddresses nodes resolver dice
    | _ => .null

/-- The source that a strategy makes of nodes, on their admin ports if `admin` is set. Orders that are random
come of the dice. A strategy that finds its own candidates takes no nodes. -/
def source (s : Strategy) (admin : Bool) (resolver : Resolver) (dice : Dice)
    (nodes : List Endpoint) : Except Failure Source :=
  let nodes := if admin then nodes.map Endpoint.onAdminPort else nodes
  if s.isDynamic then
    if nodes.isEmpty then .ok (.lookup resolver) else .error (.configuration .nodesForDynamic)
  else .ok (s.sourceOfNodes resolver dice nodes)

end Strategy

end Failover
