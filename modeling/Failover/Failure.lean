import Failover.Endpoint
import Failover.Fault
import Failover.Url.Basic
/-!
# Failures

What callers of the client and of its parts are told, with its causes as data and its wording in one
place.

* `Failure` : the kinds of failure;
* `Failure.kind`, `Failure.message` : the kind in one word, and the wording;
* `ok_of_bind` : the results along the way of two computations one after another; `ok_of_isOk`,
  `ok_of_toOption` : results that evaluation finds.
-/

set_option autoImplicit false

namespace Failover

/-- What is wrong with a configuration or the calls that build a client. -/
inductive Misconfiguration where
  | badNode (node : String)
  | mixedProtocols (group : Protocol) (node : String)
  | badNodePort (node : String)
  | nodesForDynamic
  | noProvider (shortName : String)
  | noShortName
  | badTransactionHeader (name : String)
  | badHiddenPattern
  | said (text : String)
deriving DecidableEq, Repr

namespace Misconfiguration

/-- The wording. -/
def message : Misconfiguration → String
  | badNode node => "`" ++ node ++ "` is not a valid endpoint value."
  | mixedProtocols group node =>
    "All nodes in a group must use the same protocol (" ++ group.text ++ " conflicts with "
      ++ node ++ ")"
  | badNodePort node => "`" ++ node ++ "` has an invalid port"
  | nodesForDynamic => "You should not provide default routes for use with a dynamic strategy"
  | noProvider name => "Missing provider configuration for " ++ name
  | noShortName => "An explicit short name is required"
  | badTransactionHeader name => "transaction header `" ++ name ++ "`: invalid HTTP header name"
  | badHiddenPattern => "hidden header pattern"
  | said text => text

end Misconfiguration

/-- Why a request cannot be sent. -/
inductive BadRequest where
  | badUrl (text : String) (fault : UrlFault)
  | noHost (url : String)
  | badHost (endpoint : Endpoint) (fault : UrlFault)
  | noPort (url : String)
  | badHeaderName (name : String)
  | badHeaderValue (name : String)
  | badUserAgent
  | badTransactionId (header : String)
  | said (text : String)
deriving DecidableEq, Repr

namespace BadRequest

/-- The wording. -/
def message : BadRequest → String
  | badUrl text fault => "`" ++ text ++ "`: " ++ fault.message
  | noHost url => "`" ++ url ++ "` has no host"
  | badHost endpoint fault => "host `" ++ endpoint.text ++ "`: " ++ fault.message
  | noPort url => "cannot set port on `" ++ url ++ "`"
  | badHeaderName name => "header name `" ++ name ++ "`: invalid HTTP header name"
  | badHeaderValue name => "header `" ++ name ++ "`: failed to parse header value"
  | badUserAgent => "User-Agent: failed to parse header value"
  | badTransactionId header => header ++ ": failed to parse header value"
  | said text => text

end BadRequest

/-- What a provider must never do, such as to offer a candidate without a host. -/
inductive Violation where
  | emptyHost (supplied : Endpoint)
  | said (text : String)
deriving DecidableEq, Repr

namespace Violation

/-- The wording. -/
def message : Violation → String
  | emptyHost supplied =>
    "provider offered a candidate with an empty host for " ++ supplied.text
  | said text => text

end Violation

/-- What a caller is told when there is no answer. An endpoint is unknown if no provider stands in for
it, and unmanaged if it is reported as failed to a provider that never offered it; there are no attempts
if a request ended before anything was sent. -/
inductive Failure where
  | configuration (cause : Misconfiguration)
  | unknownEndpoint (endpoint : Endpoint)
  | unmanagedEndpoint (endpoint : Endpoint)
  | invalidEndpoint (text : String)
  | invalidRequest (cause : BadRequest)
  | transport (fault : Fault)
  | invariantViolation (cause : Violation)
  | sessionExhausted (attempts : Nat)
  | noAttempts
deriving DecidableEq, Repr

namespace Failure

/-- The kind of failure in one word. -/
def kind : Failure → String
  | configuration _ => "Configuration"
  | unknownEndpoint _ => "UnknownEndpoint"
  | unmanagedEndpoint _ => "UnmanagedEndpoint"
  | invalidEndpoint _ => "InvalidEndpoint"
  | invalidRequest _ => "InvalidRequest"
  | transport _ => "Transport"
  | invariantViolation _ => "InvariantViolation"
  | sessionExhausted _ => "SessionExhausted"
  | noAttempts => "NoAttempts"

/-- The wording. -/
def message : Failure → String
  | configuration cause => "Configuration error: " ++ cause.message
  | unknownEndpoint endpoint => "Unknown host and port " ++ endpoint.text
  | unmanagedEndpoint endpoint => "Not a managed node: " ++ endpoint.text
  | invalidEndpoint text => "Invalid endpoint `" ++ text ++ "`"
  | invalidRequest cause => "Invalid request: " ++ cause.message
  | transport fault => fault.message
  | invariantViolation cause => "Invariant violation: " ++ cause.message
  | sessionExhausted attempts =>
    "No more endpoints available after " ++ String.ofList (Text.decimal attempts) ++ " attempts"
  | noAttempts => "Request failed: no attempt was made"

/-- The transport fault behind the failure, if there is one. -/
def transport? : Failure → Option Fault
  | transport fault => some fault
  | _ => none

end Failure

/-! ## Results of computations that may fail -/

section

variable {ε α β : Type}

/-- If two computations one after another succeed, so do both. -/
theorem ok_of_bind {x : Except ε α} {f : α → Except ε β} {b : β} (h : x >>= f = .ok b) :
    ∃ a, x = .ok a ∧ f a = .ok b := by
  cases x with
  | error e => cases h
  | ok a => exact ⟨a, rfl, h⟩

theorem ok_of_isOk {x : Except ε α} (h : x.isOk = true) : ∃ a, x = .ok a := by
  cases x with
  | error e => cases h
  | ok a => exact ⟨a, rfl⟩

theorem ok_of_toOption {x : Except ε α} {a : α} (h : x.toOption = some a) : x = .ok a := by
  cases x with
  | error e => cases h
  | ok b =>
    cases h
    rfl

end

end Failover
