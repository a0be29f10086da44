import Failover.Client.Basic
import Failover.Session
import Failover.Transport
/-!
# Executing a request

* `World` : the state outside a client: its providers, its transport, the clock and its counters;
* `Job` : one request on its way through a client;
* `Progress` : what has happened to it so far;
* `Job.step` : the next attempt; `Job.loop` : attempts until one of them, or the session, ends them;
* `Client.execute` : a request from beginning to end.

A request over TLS is sent as it is. Any other is sent to one candidate after another, and the result
is the first answer that no other endpoint could better. If there is none, it is the last answer that
came, or else the last fault.
-/

set_option autoImplicit false

namespace Failover

/-- The state outside a client: its providers, its transport, the clock, and what its requests add up
to. -/
structure World (σ τ : Type) where
  roster : σ
  transport : τ
  now : Nat
  stats : Stats

/-- One request on its way through a client. -/
structure Job where
  client : Client
  request : Request
  supplied : Endpoint
  context : Context

/-- What has happened to a request so far. The last answer and the last fault are kept; the trail holds the
attempts, and the reports are the endpoints reported as failed. -/
structure Progress (σ τ : Type) where
  session : Session
  roster : σ
  transport : τ
  now : Nat
  response : Option Response
  fault : Option Fault
  tally : Tally
  trail : List Attempt
  reports : List Endpoint
  events : List Event

/-- Where a request stands after one more step. -/
inductive Turn (σ τ : Type) where
  | over (outcome : Except Failure Response) (p : Progress σ τ)
  | on (p : Progress σ τ)

variable {σ τ : Type}

namespace Progress

/-- The result if no attempt was final: the last answer, or the last fault, or else `f`. -/
def conclusion (p : Progress σ τ) (f : Failure) : Except Failure Response :=
  match p.response, p.fault with
  | some r, _ => .ok r
  | none, some e => .error (.transport e)
  | none, none => .error f

/-- Logs an event. -/
def note (p : Progress σ τ) (e : Event) : Progress σ τ := { p with events := p.events ++ [e] }

/-- After the session answered. -/
def handedOut (p : Progress σ τ) (h : Handout σ) : Progress σ τ :=
  { p with
    session := h.session
    roster := h.state
    now := h.now
    events := p.events ++ h.events }

/-- What is logged when the session fails to hand out a host: nothing, unless an earlier attempt decides
the result. -/
def endEvents (p : Progress σ τ) (f : Failure) : List Event :=
  if p.response.isNone && p.fault.isNone then [] else [.endedEarly f]

/-- After the session failed to hand out a host. -/
def endEarly (p : Progress σ τ) (f : Failure) : Progress σ τ :=
  { p with events := p.events ++ p.endEvents f }

/-- What is logged when an answer that is kept is let go of. -/
def releaseEvents (shortName : String) (r : Response) : List Event :=
  (if r.isOversized then [.bodyDropped r.status] else []) ++
    match r.drain.2 with
    | .ok () => []
    | .error f => [.releaseFailed shortName f]

/-- Lets go of the connection behind the answer that is kept. -/
def release (p : Progress σ τ) (shortName : String) : Progress σ τ :=
  { p with
    response := p.response.map (·.drain.1)
    events := p.events ++ p.response.elim [] (releaseEvents shortName) }

/-- Counts the last attempt as failed. -/
def countFailure (p : Progress σ τ) : Progress σ τ := { p with tally := p.tally.fail }

/-- Reports an endpoint as failed. -/
def report (R : Roster σ) (shortName : String) (e : Endpoint) (p : Progress σ τ) :
    Progress σ τ :=
  let heard := R.report e p.roster
  let p := { p with
    roster := heard.state
    reports := p.reports ++ [e]
    events := p.events ++ heard.events }
  match heard.value with
  | .ok () => p
  | .error f => p.note (.feedbackRejected shortName e f)

end Progress

namespace Job

/-- Sends a request to a candidate, and the attempt that this makes. -/
def attempt (T : Transport τ) (j : Job) (candidate : Endpoint) (request : Request)
    (p : Progress σ τ) : Attempt × Progress σ τ :=
  let d := T.send request p.transport
  let a : Attempt := ⟨candidate, request, p.now, p.response, d.outcome, d.elapsed⟩
  let report := j.client.attemptReport j.context.transactionId a
  (a, { p with
    transport := d.state
    now := p.now + d.elapsed.nanos
    tally := p.tally.begin
    trail := p.trail ++ [a]
    events := p.events ++ [.attemptFinished report] })

/-- What follows from an attempt. -/
def settle (R : Roster σ) (j : Job) (a : Attempt) (p : Progress σ τ) : Turn σ τ :=
  let name := j.client.shortName
  match j.client.verdict j.request.method a.outcome with
  | .answered r => .over (.ok r) p
  | .unwell r => .on { p.countFailure.report R name a.candidate with response := some r }
  | .broken f => .over (.error (.transport f)) (p.countFailure.note (.notRetrying name a.candidate f))
  | .doubtful f =>
    .over (.error (.transport f))
      ((p.countFailure.report R name a.candidate).note
        (.stateUnknown name a.candidate j.request.method.name f))
  | .unreached f =>
    .on { (p.countFailure.report R name a.candidate).note (.tryingNext name a.candidate f) with
      fault := some f }

/-- Tries the next candidate. -/
def step [DomainNames] (R : Roster σ) (T : Transport τ) (j : Job) (p : Progress σ τ) : Turn σ τ :=
  let h := p.session.next R j.context.cancellation p.now p.roster
  let p := p.handedOut h
  match h.host with
  | .error f => .over (p.conclusion f) (p.endEarly f)
  | .ok candidate =>
    if candidate.host.isEmpty then
      .over (.error (.invariantViolation (.emptyHost j.supplied))) p
    else
      match j.client.prepare j.request candidate j.context with
      | .error f => .over (.error f) p
      | .ok request =>
        let sent := j.attempt T candidate request (p.release j.client.shortName)
        j.settle R sent.1 sent.2

/-- Tries candidates, at most so many, until there is a result. -/
def loop [DomainNames] (R : Roster σ) (T : Transport τ) (j : Job) :
    Nat → Progress σ τ → Except Failure Response × Progress σ τ
  | 0, p => (p.conclusion .noAttempts, p)
  | n + 1, p =>
    if p.session.mayContinue j.context.cancellation p.now then
      match j.step R T p with
      | .over outcome p => (outcome, p)
      | .on p => j.loop R T n p
    else (p.conclusion .noAttempts, p)

/-- Before the first attempt. -/
def begin (R : Roster σ) (j : Job) (w : World σ τ) : Progress σ τ :=
  let s := Session.start R j.client.policy j.supplied w.roster
  ⟨s.value, s.state, w.transport, w.now, none, none, .zero, [], [], s.events⟩

/-- All attempts. The session can hand out no more candidates than its bound. -/
def run [DomainNames] (R : Roster σ) (T : Transport τ) (j : Job) (w : World σ τ) :
    Except Failure Response × Progress σ τ :=
  let p := j.begin R w
  j.loop R T p.session.bound p

end Job

/-- A request from beginning to end. The tally is missing if the request does not count. -/
structure Execution (σ τ : Type) where
  outcome : Except Failure Response
  world : World σ τ
  trail : List Attempt
  reports : List Endpoint
  tally : Option Tally
  events : List Event

namespace Execution

/-- A request that ended before it got to the attempts. -/
def refused (f : Failure) (w : World σ τ) : Execution σ τ := ⟨.error f, w, [], [], none, []⟩

end Execution

namespace Client

/-- Sends a request as it is. -/
def sendDirectly (T : Transport τ) (r : Request) (w : World σ τ) : Execution σ τ :=
  let d := T.send r w.transport
  let outcome := match d.outcome with
    | .ok response => .ok response
    | .error f => .error (.transport f)
  ⟨outcome, { w with transport := d.state, now := w.now + d.elapsed.nanos }, [], [], none, []⟩

/-- Sends a request to one candidate after another, logs and counts it. -/
def failOver [DomainNames] (R : Roster σ) (T : Transport τ) (j : Job) (w : World σ τ) :
    Execution σ τ :=
  let r := j.run R T w
  let p := r.2
  let tally := { p.tally with elapsed := .between w.now p.now }
  ⟨r.1, ⟨p.roster, p.transport, p.now, w.stats.record tally⟩, p.trail, p.reports, some tally,
    p.events ++ [.requestFinished (j.client.requestReport r.1 tally)]⟩

/-- Executes a request. -/
def execute [DomainNames] (R : Roster σ) (T : Transport τ) (c : Client) (r : Request)
    (context : Context) (w : World σ τ) : Execution σ τ :=
  if r.isSecure then sendDirectly T r w
  else
    match r.endpoint with
    | .error f => .refused f w
    | .ok supplied =>
      if R.supports w.roster supplied then
        failOver R T ⟨c, r, supplied.withDefaultPort suppliedPort, context⟩ w
      else .refused (.unknownEndpoint supplied) w

end Client

end Failover
