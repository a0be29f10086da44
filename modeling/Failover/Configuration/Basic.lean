import Failover.Configuration.Continuation
import Failover.Configuration.Node
import Failover.Configuration.Strategy
/-!
# Configurations

Everything that a client of one service needs to know.

* `Configuration.new` : from node texts, all else as usual;
* `Configuration.forTesting` : one local node;
* `Configuration.change` : one setting changed.
-/

set_option autoImplicit false

namespace Failover

/-- How to reach one service: its nodes, those that are tried first and those that are tried afterwards,
and how, how often and how fast they are tried. -/
structure Configuration where
  shortName : Option String
  path : String
  protocol : Protocol
  primaryNodes : List Endpoint
  secondaryNodes : List Endpoint
  retryNonIdempotent : Bool
  strategy : Strategy
  transactionHeader : Option String
  timeout : Duration
  connectTimeout : Duration
  continuation : Continuation
deriving DecidableEq, Repr

namespace Configuration

/-- The usual time for a whole request, in milliseconds. -/
def usualTimeoutMs : Nat := 5000

/-- The usual time to connect, in milliseconds. -/
def usualConnectTimeoutMs : Nat := 1000

/-- These nodes, all else as usual. -/
def ofNodes (shortName : Option String) (protocol : Protocol) (primary secondary : List Endpoint) :
    Configuration :=
  ⟨shortName, "/", protocol, primary, secondary, false, .loadBalanced, none,
    .ofMillis usualTimeoutMs, .ofMillis usualConnectTimeoutMs, .eachOnce⟩

/-- Reads node texts; secondary nodes share the protocol of the primary ones. -/
def new (shortName : Option String) (primary secondary : List String) :
    Except Failure Configuration := do
  let (ps, group) ← Node.readGroup none primary
  let (ss, group) ← Node.readGroup group secondary
  pure (ofNodes shortName (group.getD .http) ps ss)

/-- One local node, whose admin port is the next one. -/
def forTesting (host : String) (port : UInt16) : Configuration :=
  let admin := if port = 65535 then port else port + 1
  ofNodes (some ("test-" ++ host ++ "-" ++ String.ofList (Text.decimal port.toNat))) .http
    [⟨host, some port, some admin⟩] []

/-- The first primary node. -/
def firstNode? (c : Configuration) : Option Endpoint := c.primaryNodes.head?

/-- One setting and its value. -/
inductive Setting where
  | path (p : String)
  | retry (b : Bool)
  | strategy (s : Strategy)
  | transactionHeader (h : String)
  | timeout (d : Duration)
  | connectTimeout (d : Duration)
  | continuation (k : Continuation)
deriving DecidableEq, Repr

/-- The configuration with one setting changed. -/
def change (c : Configuration) : Setting → Configuration
  | .path p => { c with path := p }
  | .retry b => { c with retryNonIdempotent := b }
  | .strategy s => { c with strategy := s }
  | .transactionHeader h => { c with transactionHeader := some h }
  | .timeout d => { c with timeout := d }
  | .connectTimeout d => { c with connectTimeout := d }
  | .continuation k => { c with continuation := k }

end Configuration

end Failover
