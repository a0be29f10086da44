import Failover.Configuration.Continuation
import Failover.Context
import Failover.Event
import Failover.HeaderFilter
import Failover.Http.Request
import Failover.Http.Response
import Failover.Stats
/-!
# Clients

* `Client` : what a client is set up with, its providers and transport apart;
* `Client.userAgent` : what it calls itself;
* `Client.prepare` : a request aimed at one candidate, as it is sent;
* `Verdict`, `Client.verdict` : what an outcome of one attempt means for the request;
* `Client.attemptReport`, `Client.requestReport` : what the log tells of one attempt, and of a whole
  request.
-/

set_option autoImplicit false

namespace Failover

/-- How a client works. If it has a header for transaction ids, it passes them on; if it repeats
requests that are not idempotent, it does so after uncertain failures too. -/
structure Client where
  shortName : String
  protocol : Protocol
  policy : Policy
  retryNonIdempotent : Bool
  transactionHeader : Option HeaderName
  filter : HeaderFilter

/-- What the outcome of one attempt means for the request. The answer is the result, or the endpoint is
unwell and another one may do better, or no other endpoint can mend the fault, or the request may have
had effect and must not have it twice, or the endpoint was not reached and another one may be. -/
inductive Verdict where
  | answered (r : Response)
  | unwell (r : Response)
  | broken (f : Fault)
  | doubtful (f : Fault)
  | unreached (f : Fault)
deriving DecidableEq, Repr

/-- Whether the verdict blames the endpoint. -/
def Verdict.blames : Verdict → Bool
  | .answered _ => false
  | .broken _ => false
  | _ => true

namespace Client

/-- The port of a requested endpoint that names none. -/
def suppliedPort : UInt16 := 80

/-- The port of a candidate that names none. -/
def candidatePort : UInt16 := 8080

/-- What a client of this name calls itself. -/
def userAgent (shortName : String) (transactionId : Option String) : String :=
  "Resilient Client (v=0.3.0, sn=" ++ shortName
    ++ (match transactionId with | some id => ", transaction_id=" ++ id | none => "") ++ ")"

/-- The User-Agent for a request. -/
def agentHeader (c : Client) (id : Option String) : Except Failure HeaderValue :=
  match HeaderValue.ofText? (userAgent c.shortName id) with
  | some v => .ok v
  | none => .error (.invalidRequest .badUserAgent)

/-- The request with the transaction id, if there is one and it is passed on. -/
def tag (c : Client) (id : Option String) (r : Request) : Except Failure Request :=
  match c.transactionHeader, id with
  | some header, some id =>
    match HeaderValue.ofText? id with
    | some v => .ok (r.setHeader header v)
    | none => .error (.invalidRequest (.badTransactionId header.text))
  | _, _ => .ok r

/-- The request as it is sent to a candidate. -/
def prepare [DomainNames] (c : Client) (r : Request) (candidate : Endpoint) (context : Context) :
    Except Failure Request := do
  let aimed ← r.retarget (candidate.withDefaultPort candidatePort)
  let agent ← c.agentHeader context.transactionId
  c.tag context.transactionId (aimed.setHeader .userAgent agent)

/-- Whether a request with this fault behind it may be sent again. -/
def mayRepeat (c : Client) (m : Method) (f : Fault) : Bool :=
  !f.isUncertain || m.isIdempotent || c.retryNonIdempotent

/-- What an outcome means for a request of this method. -/
def verdict (c : Client) (m : Method) : Except Fault Response → Verdict
  | .ok r => if r.isRecoverable then .unwell r else .answered r
  | .error f =>
    if !f.isIo then .broken f
    else if c.mayRepeat m f then .unreached f
    else .doubtful f

end Client

/-! ## What the log tells -/

/-- One request that was sent to a candidate. While it was on its way, the answer `held` of an earlier
attempt was kept. -/
structure Attempt where
  candidate : Endpoint
  request : Request
  started : Nat
  held : Option Response
  outcome : Except Fault Response
  elapsed : Duration

namespace Client

/-- The User-Agent that a request carries, or nothing. -/
def agentOf (r : Request) : String := ((r.headers.get? .userAgent).bind (·.text?)).getD ""

/-- What the log tells of one attempt. -/
def attemptReport (c : Client) (transactionId : Option String) (a : Attempt) : AttemptReport :=
  { shortName := c.shortName
    transactionId := transactionId.getD ""
    endpoint := a.candidate
    elapsedMillis := a.elapsed.reportedMillis
    protocol := a.request.url.scheme
    uri := a.request.url.text
    path := a.request.url.path
    method := a.request.method.name
    status := match a.outcome with | .ok r => r.status | .error _ => 0
    size := match a.outcome with | .ok r => r.contentLength?.getD 0 | .error _ => 0
    contentType := match a.outcome with | .ok r => r.contentType?.getD "" | .error _ => ""
    userAgent := agentOf a.request
    requestHeaders := c.filter.visible a.request.headers
    responseHeaders := match a.outcome with | .ok r => c.filter.visible r.headers | .error _ => []
    fault := match a.outcome with | .ok _ => none | .error f => some f.message }

/-- The outcome of a request in one word. -/
def outcomeLabel : Except Failure Response → String
  | .ok r => String.ofList (Text.decimal r.status)
  | .error (.transport _) => "exception"
  | .error _ => "unknown"

/-- Whether a request failed: for want of an answer, or by an answer that blames the server. -/
def isFailed : Except Failure Response → Bool
  | .ok r => r.isServerError
  | .error _ => true

/-- What the log tells of a whole request. -/
def requestReport (c : Client) (outcome : Except Failure Response) (t : Tally) : RequestReport :=
  { shortName := c.shortName
    outcome := outcomeLabel outcome
    failed := isFailed outcome
    attempts := t.attempts
    failedAttempts := t.failed
    elapsedMillis := t.elapsed.reportedMillis }

end Client

end Failover
