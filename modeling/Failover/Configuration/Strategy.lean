import Failover.Json.Reader
import Failover.Endpoint
/-!
# Strategies and protocols by name

* `Strategy` : how candidates are chosen; `Strategy.text`, `Strategy.ofText?` its names, old ones
  included when reading;
* `Protocol.ofText?` : the protocol of a name.
-/

set_option autoImplicit false

namespace Failover

/-- How candidate endpoints are chosen: none, the configured ones in fixed or in random order, their
addresses in random order, or whatever the requested host resolves to. -/
inductive Strategy where
  | empty
  | simpleFailover
  | loadBalanced
  | loadBalancedIp
  | dynamicRandomIp
deriving DecidableEq, Repr

namespace Strategy

/-- The name. -/
def text : Strategy → String
  | empty => "empty"
  | simpleFailover => "simple_failover"
  | loadBalanced => "load_balanced"
  | loadBalancedIp => "load_balanced_ip"
  | dynamicRandomIp => "dynamic_random_ip"

/-- One line about it. -/
def description : Strategy → String
  | empty => "No hosts - for testing."
  | simpleFailover => "Tries in fixed sequence."
  | loadBalanced => "Tries using random host."
  | loadBalancedIp => "Resolves host names to IPs, then tries using a random IP."
  | dynamicRandomIp => "Resolves host names to IPs on any feasible route."

/-- Whether it works without configured endpoints. -/
def isDynamic : Strategy → Bool
  | dynamicRandomIp => true
  | _ => false

/-- The strategy of a name, present or former. -/
def ofText? : String → Option Strategy
  | "empty" => some empty
  | "EMPTY_STRATEGY" => some empty
  | "simple_failover" => some simpleFailover
  | "SIMPLE_FAILOVER_STRATEGY" => some simpleFailover
  | "load_balanced" => some loadBalanced
  | "LOAD_BALANCED_STRATEGY" => some loadBalanced
  | "load_balanced_ip" => some loadBalancedIp
  | "LOAD_BALANCED_IP_STRATEGY" => some loadBalancedIp
  | "dynamic_random_ip" => some dynamicRandomIp
  | "DYNAMIC_RANDOM_IP_STRATEGY" => some dynamicRandomIp
  | _ => none

/-- The strategy that a JSON value names. -/
def ofJson (v : Json) : Except Json.Mistake Strategy := Json.caseOf ofText? v

/-- A strategy is read back from its name. -/
theorem ofText?_text (s : Strategy) : ofText? s.text = some s := by
  cases s <;> rfl

end Strategy

namespace Protocol

/-- The protocol of a name. -/
def ofText? : String → Option Protocol
  | "http" => some http
  | "https" => some https
  | _ => none

/-- The protocol that a JSON value names. -/
def ofJson (v : Json) : Except Json.Mistake Protocol := Json.caseOf ofText? v

end Protocol

end Failover
