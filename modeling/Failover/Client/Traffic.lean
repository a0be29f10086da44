import Failover.Client.Execution
/-!
# Several requests at once

One client executes many requests beside each other.  They share its providers, its transport and its
counters, and come in each other's way between any two of their steps.

* `Job.dispatch` : a step up to the answer of the transport.  What follows from the answer is
  `Job.settle`; `Job.step_eq_dispatch`: the two together are a step;
* `Pending`, `Finished`, `Traffic` : the requests on their way, those that have ended, in the order in
  which they did, and what they share;
* `Move` : a new request comes, one of those on their way gets ahead, or time passes;
* `Traffic.move`, `Traffic.run` : one move, and one after another.
-/

set_option autoImplicit false

namespace Failover

variable {σ τ : Type}

/-! ## Steps in two halves -/

/-- Where a request stands when it has tried to send. -/
inductive Dispatch (σ τ : Type) where
  | over (outcome : Except Failure Response) (p : Progress σ τ)
  | sent (a : Attempt) (p : Progress σ τ)

namespace Job

/-- Sends the request to the next candidate. -/
def dispatch [DomainNames] (R : Roster σ) (T : Transport τ) (j : Job) (p : Progress σ τ) :
    Dispatch σ τ :=
  let h := p.session.next R j.context.cancellation p.now p.roster
  let p := p.handedOut h
  match h.host with
  | .error f => .over (p.conclusion f) (p.endEarly f)
  | .ok candidate =>
    if candidate.host.isEmpty then
      .over (.error (.invariantViolation (.emptyHost j.supplied))) p
    else
      match j.client.prepare j.request candidate j.context with
      | .error f => .over (.error f) p
      | .ok request =>
        let sent := j.attempt T candidate request (p.release j.client.shortName)
        .sent sent.1 sent.2

/-- Sending, and what follows from the answer, make a step. -/
theorem step_eq_dispatch [DomainNames] (R : Roster σ) (T : Transport τ) (j : Job)
    (p : Progress σ τ) : j.step R T p = match j.dispatch R T p with
      | .over outcome q => .over outcome q
      | .sent a q => j.settle R a q := by
  unfold step dispatch
  simp only []
  cases (p.session.next R j.context.cancellation p.now p.roster).host with
  | error f => rfl
  | ok candidate =>
    simp only []
    split
    · rfl
    · cases j.client.prepare j.request candidate j.context <;> rfl

/-- A request that has ended is logged and counted. -/
def concluded (j : Job) (started : Nat) (stats : Stats) (outcome : Except Failure Response)
    (p : Progress σ τ) : Execution σ τ :=
  let tally := { p.tally with elapsed := .between started p.now }
  ⟨outcome, ⟨p.roster, p.transport, p.now, stats.record tally⟩, p.trail, p.reports, some tally,
    p.events ++ [.requestFinished (j.client.requestReport outcome tally)]⟩

end Job

/-! ## Requests beside each other -/

/-- A request on its way, since it found the world as it was when it arrived. It may be awaiting that
something follows from an attempt that was answered. -/
structure Pending (σ τ : Type) where
  job : Job
  arrived : World σ τ
  awaiting : Option Attempt
  progress : Progress σ τ

/-- A request that has ended, with the state outside the client when it came. -/
structure Finished (σ τ : Type) where
  request : Request
  context : Context
  arrived : World σ τ
  run : Execution σ τ

/-- The requests of one client: those on their way, those that have ended, in the order in which they did,
and the state outside the client, which all of them share. -/
structure Traffic (σ τ : Type) where
  world : World σ τ
  pending : List (Pending σ τ)
  finished : List (Finished σ τ)

/-- What can happen next: a request comes, the one at a place among those on their way gets ahead, or the
clock shows another instant. Requests wait at the same time, so the clock does not follow from what each
of them waits for. -/
inductive Move where
  | call (r : Request) (context : Context)
  | proceed (i : Nat)
  | clock (now : Nat)

/-- The request finds the state outside the client as others have left it. -/
def Progress.within (p : Progress σ τ) (w : World σ τ) : Progress σ τ :=
  { p with roster := w.roster, transport := w.transport, now := w.now }

/-- The state outside the client as the request leaves it. -/
def World.after (w : World σ τ) (p : Progress σ τ) : World σ τ :=
  { w with roster := p.roster, transport := p.transport, now := p.now }

namespace Traffic

/-- No requests yet, and nothing counted. -/
def fresh (roster : σ) (transport : τ) (now : Nat) : Traffic σ τ :=
  ⟨⟨roster, transport, now, .zero⟩, [], []⟩

/-- The request at place `i` has ended. -/
def finish (t : Traffic σ τ) (i : Nat) (call : Pending σ τ) (outcome : Except Failure Response)
    (p : Progress σ τ) : Traffic σ τ :=
  let run := call.job.concluded call.arrived.now t.world.stats outcome p
  ⟨run.world, t.pending.eraseIdx i,
    t.finished ++ [⟨call.job.request, call.job.context, call.arrived, run⟩]⟩

/-- The request at place `i` goes on from here. -/
def resume (t : Traffic σ τ) (i : Nat) (call : Pending σ τ) (awaiting : Option Attempt)
    (p : Progress σ τ) : Traffic σ τ :=
  { t with
    world := t.world.after p
    pending := t.pending.set i { call with awaiting := awaiting, progress := p } }

/-- A request comes.  One that gets to no attempts of its own ends at once. -/
def call [DomainNames] (R : Roster σ) (T : Transport τ) (c : Client) (r : Request)
    (context : Context) (t : Traffic σ τ) : Traffic σ τ :=
  let atOnce : Traffic σ τ :=
    let run := c.execute R T r context t.world
    ⟨run.world, t.pending, t.finished ++ [⟨r, context, t.world, run⟩]⟩
  if r.isSecure then atOnce
  else
    match r.endpoint with
    | .error _ => atOnce
    | .ok supplied =>
      if R.supports t.world.roster supplied then
        let j : Job := ⟨c, r, supplied.withDefaultPort Client.suppliedPort, context⟩
        let p := j.begin R t.world
        { t with world := t.world.after p, pending := t.pending ++ [⟨j, t.world, none, p⟩] }
      else atOnce

/-- The request at place `i` has tried to send. -/
def dispatched (t : Traffic σ τ) (i : Nat) (call : Pending σ τ) : Dispatch σ τ → Traffic σ τ
  | .over outcome p => t.finish i call outcome p
  | .sent a p => t.resume i call (some a) p

/-- The request at place `i` has dealt with an answer. -/
def settled (t : Traffic σ τ) (i : Nat) (call : Pending σ τ) : Turn σ τ → Traffic σ τ
  | .over outcome p => t.finish i call outcome p
  | .on p => t.resume i call none p

/-- The request at place `i` gets ahead: it sends, or deals with the answer. -/
def proceed [DomainNames] (R : Roster σ) (T : Transport τ) (i : Nat) (t : Traffic σ τ) :
    Traffic σ τ :=
  match t.pending[i]? with
  | none => t
  | some call =>
    let p := call.progress.within t.world
    match call.awaiting with
    | some a => t.settled i call (call.job.settle R a p)
    | none =>
      if p.session.mayContinue call.job.context.cancellation p.now then
        t.dispatched i call (call.job.dispatch R T p)
      else t.finish i call (p.conclusion .noAttempts) p

/-- One move. -/
def move [DomainNames] (R : Roster σ) (T : Transport τ) (c : Client) (t : Traffic σ τ) :
    Move → Traffic σ τ
  | .call r context => t.call R T c r context
  | .proceed i => t.proceed R T i
  | .clock now => { t with world := { t.world with now := now } }

/-- Moves one after another. -/
def run [DomainNames] (R : Roster σ) (T : Transport τ) (c : Client) (t : Traffic σ τ) :
    List Move → Traffic σ τ
  | [] => t
  | m :: ms => run R T c (t.move R T c m) ms

end Traffic

end Failover
