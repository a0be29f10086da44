import Failover.Failure
import Failover.Http.Response
import Failover.Text.Classes
/-!
# Log events

What is written to the log, as data: the events, and for each its level, its message and its fields.

* `Text.quotedMap` : named texts between braces, each between quotes, with escapes for quotes, backslashes
  and everything without a printed form of its own;
* `Event` : the events of resolving, feedback, pauses, attempts and whole requests;
* `Event.level`, `Event.message`, `Event.fields` : how an event is written.

Two events of the lowest level are left out: that a missing port was taken for any port, which is logged
at each look at a list of hosts, and how a client was made.
-/

set_option autoImplicit false

namespace Failover

/-! ## Quoted texts -/

namespace Text

/-- A character by its code point. -/
def codePoint (c : Char) : List Char :=
  ['\\', 'u', '\x7b'] ++ Nat.toDigits 16 c.toNat ++ ['\x7d']

/-- One character between quotes. -/
def escaped (c : Char) : List Char :=
  if c = '\x00' then ['\\', '0']
  else if c = '\t' then ['\\', 't']
  else if c = '\r' then ['\\', 'r']
  else if c = '\n' then ['\\', 'n']
  else if c = '"' then ['\\', '"']
  else if c = '\\' then ['\\', '\\']
  else if 0x20 ≤ c.toNat ∧ c.toNat < 0x7F then [c]
  else if isGraphemeExtender c || isUnprintable c then codePoint c
  else [c]

/-- A text between quotes. -/
def quoted (s : String) : List Char :=
  '"' :: s.toList.flatMap escaped ++ ['"']

/-- One named text. -/
def quotedEntry (e : String × String) : List Char :=
  quoted e.1 ++ [':', ' '] ++ quoted e.2

/-- Named texts behind the first. -/
def quotedRest (es : List (String × String)) : List Char :=
  es.flatMap fun e => ',' :: ' ' :: quotedEntry e

/-- Named texts between braces. -/
def quotedMap : List (String × String) → String
  | [] => String.ofList ['\x7b', '\x7d']
  | e :: es => String.ofList ('\x7b' :: quotedEntry e ++ quotedRest es ++ ['\x7d'])

end Text

/-! ## Events -/

/-- How grave an event is. -/
inductive Level where
  | debug
  | info
  | warn
  | error
deriving DecidableEq, Repr

/-- The name of a level. -/
def Level.text : Level → String
  | debug => "DEBUG"
  | info => "INFO"
  | warn => "WARN"
  | error => "ERROR"

/-- The value of a field. -/
inductive Field where
  | text (s : String)
  | number (n : Nat)
  | flag (b : Bool)
deriving DecidableEq, Repr

/-- How one attempt went, as the log tells it. What is not known is empty or zero, and only headers that
may be told are. -/
structure AttemptReport where
  shortName : String
  transactionId : String
  endpoint : Endpoint
  elapsedMillis : Nat
  protocol : String
  uri : String
  path : String
  method : String
  status : Nat
  size : Nat
  contentType : String
  userAgent : String
  requestHeaders : List (String × String)
  responseHeaders : List (String × String)
  fault : Option String
deriving DecidableEq, Repr

/-- How a whole request went, as the log tells it. -/
structure RequestReport where
  shortName : String
  outcome : String
  failed : Bool
  attempts : Nat
  failedAttempts : Nat
  elapsedMillis : Nat
deriving DecidableEq, Repr

/-- An entry of the log: what became of a report of failure, of a lookup or of a pause, of the body of an
earlier answer, of one attempt, and of a whole request. -/
inductive Event where
  | hostFailed (endpoint : Endpoint)
  | unclaimed (endpoint : Endpoint)
  | hostResolved (host : String) (addresses : Nat)
  | lookupEmpty (host : String)
  | lookupFailed (host : String) (error : String)
  | backingOff (attempt : Nat) (delayMillis : Nat)
  | backoffInterrupted
  | endedEarly (failure : Failure)
  | bodyDropped (status : Nat)
  | releaseFailed (shortName : String) (fault : Fault)
  | feedbackRejected (shortName : String) (endpoint : Endpoint) (failure : Failure)
  | tryingNext (shortName : String) (endpoint : Endpoint) (fault : Fault)
  | notRetrying (shortName : String) (endpoint : Endpoint) (fault : Fault)
  | stateUnknown (shortName : String) (endpoint : Endpoint) (method : String) (fault : Fault)
  | attemptFinished (report : AttemptReport)
  | requestFinished (report : RequestReport)
deriving DecidableEq, Repr

namespace AttemptReport

/-- Faults and statuses from 500 on are errors. -/
def isError (r : AttemptReport) : Bool := r.fault.isSome || 500 ≤ r.status

/-- The fields. -/
def fields (r : AttemptReport) : List (String × Field) :=
  [("short_name", .text r.shortName),
   ("transaction_id", .text r.transactionId),
   ("endpoint", .text r.endpoint.text),
   ("response_time_ms", .number r.elapsedMillis),
   ("protocol", .text r.protocol),
   ("uri", .text r.uri),
   ("path", .text r.path),
   ("method", .text r.method),
   ("status", .number r.status),
   ("size", .number r.size),
   ("content_type", .text r.contentType),
   ("user_agent", .text r.userAgent),
   ("request_headers", .text (Text.quotedMap r.requestHeaders)),
   ("response_headers", .text (Text.quotedMap r.responseHeaders)),
   ("exception_was_thrown", .flag r.fault.isSome),
   ("error", .text (r.fault.getD ""))]

end AttemptReport

namespace RequestReport

/-- A request that failed or never sent anything is an error. -/
def isError (r : RequestReport) : Bool := r.attempts == 0 || r.failed

/-- The fields. -/
def fields (r : RequestReport) : List (String × Field) :=
  [("short_name", .text r.shortName),
   ("outcome", .text r.outcome),
   ("total_attempts", .number r.attempts),
   ("failed_attempts", .number r.failedAttempts),
   ("elapsed_ms", .number r.elapsedMillis)]

end RequestReport

namespace Event

/-- How grave the event is. -/
def level : Event → Level
  | hostFailed _ => .info
  | unclaimed _ => .debug
  | hostResolved _ _ => .debug
  | backingOff _ _ => .debug
  | backoffInterrupted => .debug
  | endedEarly _ => .debug
  | bodyDropped _ => .debug
  | attemptFinished r => if r.isError then .error else .debug
  | requestFinished r => if r.isError then .error else .debug
  | _ => .warn

/-- The message. -/
def message : Event → String
  | hostFailed _ => "Host failed to respond correctly"
  | unclaimed _ => "No provider claims failed endpoint"
  | hostResolved _ _ => "Resolved host"
  | lookupEmpty _ => "Host resolved to no addresses"
  | lookupFailed _ _ => "Unable to resolve host"
  | backingOff _ _ => "Backing off before next attempt"
  | backoffInterrupted => "Backoff interrupted by cancellation"
  | endedEarly _ => "Continuation ended early"
  | bodyDropped _ => "Dropping oversized response body"
  | releaseFailed _ _ => "Failed to release previous response"
  | feedbackRejected _ _ _ => "Failure feedback rejected"
  | tryingNext _ _ _ => "I/O failure, trying next endpoint"
  | notRetrying _ _ _ => "Unexpected failure, not retrying"
  | stateUnknown _ _ _ _ => "Remote state unknown, not retrying non-idempotent request"
  | attemptFinished _ => "Attempt finished"
  | requestFinished _ => "Request finished"

/-- The fields of an event about one endpoint and what went wrong there. -/
def troubleFields (shortName : String) (endpoint : Endpoint) (error : String) :
    List (String × Field) :=
  [("short_name", .text shortName), ("endpoint", .text endpoint.text), ("error", .text error)]

/-- The fields. -/
def fields : Event → List (String × Field)
  | hostFailed e => [("host", .text e.host), ("endpoint", .text e.text)]
  | unclaimed e => [("endpoint", .text e.text)]
  | hostResolved host n => [("host", .text host), ("addresses", .number n)]
  | lookupEmpty host => [("host", .text host)]
  | lookupFailed host error => [("host", .text host), ("error", .text error)]
  | backingOff attempt delay => [("attempt", .number attempt), ("delay_ms", .number delay)]
  | backoffInterrupted => []
  | endedEarly f => [("error", .text f.message)]
  | bodyDropped status => [("status", .text (statusText status))]
  | releaseFailed name f => [("short_name", .text name), ("error", .text f.message)]
  | feedbackRejected name e f => troubleFields name e f.message
  | tryingNext name e f => troubleFields name e f.message
  | notRetrying name e f => troubleFields name e f.message
  | stateUnknown name e method f => ("method", .text method) :: troubleFields name e f.message
  | attemptFinished r => r.fields
  | requestFinished r => r.fields

end Event

end Failover
