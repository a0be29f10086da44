import Failover.Configuration.Continuation
import Failover.Context
import Failover.Provider.Source
/-!
# Sessions

A session hands out the candidates for one request, one at a time.

* `Pass` : every candidate once;
* `Rounds` : round and round, asking for candidates again whenever they are used up, within a budget
  of attempts and with a pause before each attempt but the first;
* `Session.start`, `Session.mayContinue`, `Session.next` : how a session is begun and used;
* `Session.bound` : how many hosts a session can still hand out;
* `LiveSession` : a session with the state of its roster, the clock and the caller's patience, and what
  can happen to it; `LiveSession.drain` : all hosts that it hands out while it may continue.

A caller that gives up during a pause ends the pause. The host behind it is still handed out, and it
is the last one.
-/

set_option autoImplicit false

namespace Failover

/-- One pass over candidates: those still to be handed out, and how many were. The program counts these in
32 bits, so the two agree up to `2 ^ 32` candidates; see `Job.run_counts`. -/
structure Pass where
  waiting : List Endpoint
  attempts : Nat
deriving DecidableEq, Repr

/-- Repeated passes within a budget. Kept are the candidates still to be handed out, whether there were any
when they were last asked for, whether a pause was cut short, and how many hosts were handed out, which
never passes the 32-bit budget. -/
structure Rounds where
  plan : Backoff
  supplied : Endpoint
  waiting : List Endpoint
  hasCandidates : Bool
  cancelled : Bool
  attempts : Nat
deriving DecidableEq, Repr

/-- The candidates of one request as they are handed out. -/
inductive Session where
  | pass (p : Pass)
  | rounds (r : Rounds)
deriving DecidableEq, Repr

/-- What a session answers when it is asked for the next host, the instant of the answer, and what it
leaves behind. -/
structure Handout (σ : Type) where
  host : Except Failure Endpoint
  session : Session
  now : Nat
  state : σ
  events : List Event

variable {σ : Type}

/-- The next host of a pass. -/
def Pass.next (p : Pass) : Except Failure Endpoint × Pass :=
  match p.waiting with
  | [] => (.error (.sessionExhausted p.attempts), p)
  | e :: rest => (.ok e, ⟨rest, p.attempts + 1⟩)

namespace Rounds

/-- Whether another host may be asked for. -/
def mayContinue (r : Rounds) (c : Cancellation) (now : Nat) : Bool :=
  !r.cancelled && !c.isCancelled now && r.hasCandidates && r.attempts < r.plan.budget

/-- The pause before the next host. -/
def delay (r : Rounds) : Duration := r.plan.delayAfter r.attempts

/-- The session after the pause before the next host, and the instant at which it is over. -/
def pause (r : Rounds) (c : Cancellation) (now : Nat) : Rounds × Nat :=
  if r.delay.nanos = 0 then (r, now)
  else ({ r with cancelled := r.cancelled || c.cutsShort now r.delay }, c.wakeAt now r.delay)

/-- What is logged of the pause before the next host: that it begins, and that the caller ended it. -/
def pauseEvents (r : Rounds) (c : Cancellation) (now : Nat) : List Event :=
  if r.delay.nanos = 0 then []
  else
    .backingOff (r.attempts + 1) r.delay.reportedMillis ::
      if c.cutsShort now r.delay then [.backoffInterrupted] else []

/-- Asks for candidates again if they are used up and the budget is not. -/
def refill (R : Roster σ) (r : Rounds) (st : σ) : Reply σ Rounds :=
  if r.waiting.isEmpty && r.attempts < r.plan.budget then
    let found := R.candidates r.supplied st
    ⟨{ r with waiting := found.value, hasCandidates := !found.value.isEmpty }, found.state,
      found.events⟩
  else .of r st

/-- The next host, after the pause before it. -/
def next (R : Roster σ) (r : Rounds) (c : Cancellation) (now : Nat) (st : σ) : Handout σ :=
  if r.plan.budget ≤ r.attempts then
    ⟨.error (.sessionExhausted r.attempts), .rounds r, now, st, []⟩
  else
    let paused := r.pauseEvents c now
    let (r, now) := r.pause c now
    match r.waiting with
    | [] =>
      ⟨.error (.sessionExhausted r.attempts), .rounds { r with hasCandidates := false }, now, st,
        paused⟩
    | e :: rest =>
      let filled := refill R { r with waiting := rest, attempts := r.attempts + 1 } st
      ⟨.ok e, .rounds filled.value, now, filled.state, paused ++ filled.events⟩

end Rounds

namespace Session

/-- Asks for candidates and begins to hand them out. -/
def start (R : Roster σ) (policy : Policy) (supplied : Endpoint) (st : σ) : Reply σ Session :=
  let found := R.candidates supplied st
  let session := match policy with
    | .eachOnce => pass ⟨found.value, 0⟩
    | .backoff plan => rounds ⟨plan, supplied, found.value, !found.value.isEmpty, false, 0⟩
  ⟨session, found.state, found.events⟩

/-- Whether another host may be asked for. -/
def mayContinue (s : Session) (c : Cancellation) (now : Nat) : Bool :=
  match s with
  | pass p => !p.waiting.isEmpty
  | rounds r => r.mayContinue c now

/-- The next host. -/
def next (R : Roster σ) (s : Session) (c : Cancellation) (now : Nat) (st : σ) : Handout σ :=
  match s with
  | pass p =>
    let r := p.next
    ⟨r.1, pass r.2, now, st, []⟩
  | rounds r => r.next R c now st

/-- Hosts handed out so far. -/
def attempts : Session → Nat
  | pass p => p.attempts
  | rounds r => r.attempts

/-- How many hosts can still be handed out. -/
def bound : Session → Nat
  | pass p => p.waiting.length
  | rounds r => r.plan.budget - r.attempts

/-- A session that can hand out nothing more does not continue. -/
theorem mayContinue_of_bound_eq_zero {s : Session} (h : s.bound = 0) (c : Cancellation)
    (now : Nat) : s.mayContinue c now = false := by
  cases s with
  | pass p => simp_all [bound, mayContinue]
  | rounds r =>
    have : ¬ r.attempts < r.plan.budget := by simp only [bound] at h; omega
    simp [mayContinue, Rounds.mayContinue, this]

end Session

/-! ## Sessions in use -/

/-- A session and what is around it. -/
structure LiveSession (σ : Type) where
  session : Session
  state : σ
  now : Nat
  cancellation : Cancellation

namespace LiveSession

/-- A session that begins when the clock starts. -/
def start (R : Roster σ) (policy : Policy) (supplied : Endpoint) (c : Cancellation) (st : σ) :
    LiveSession σ :=
  let r := Session.start R policy supplied st
  ⟨r.value, r.state, 0, c⟩

/-- Whether another host may be asked for. -/
def mayContinue (s : LiveSession σ) : Bool := s.session.mayContinue s.cancellation s.now

/-- The next host. -/
def next (R : Roster σ) (s : LiveSession σ) : Except Failure Endpoint × LiveSession σ :=
  let h := s.session.next R s.cancellation s.now s.state
  (h.host, { s with session := h.session, state := h.state, now := h.now })

/-- Reports an endpoint as failed. -/
def report (R : Roster σ) (e : Endpoint) (s : LiveSession σ) : Except Failure Unit × LiveSession σ :=
  let r := R.report e s.state
  (r.value, { s with state := r.state })

/-- The caller gives up at an instant, unless it did so before. -/
def cancelAt (t : Nat) (s : LiveSession σ) : LiveSession σ :=
  { s with cancellation := s.cancellation.orAt t }

/-- Time goes by. -/
def wait (d : Duration) (s : LiveSession σ) : LiveSession σ := { s with now := s.now + d.nanos }

/-- Asks for hosts as long as that is possible, at most so often: the answers, each with its instant. -/
def drain (R : Roster σ) : Nat → LiveSession σ →
    List (Except Failure Endpoint × Nat) × LiveSession σ
  | 0, s => ([], s)
  | n + 1, s =>
    if s.mayContinue then
      let (host, s) := s.next R
      let (rest, left) := drain R n s
      ((host, s.now) :: rest, left)
    else ([], s)

/-- A session that cannot continue hands out nothing. -/
theorem drain_of_not_mayContinue (R : Roster σ) (n : Nat) {s : LiveSession σ}
    (h : s.mayContinue = false) : drain R n s = ([], s) := by
  cases n <;> simp [drain, h]

end LiveSession

end Failover
