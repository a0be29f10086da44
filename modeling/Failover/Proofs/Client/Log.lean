import Failover.Proofs.Client.Run
/-!
# What a run logs

* `Turn.progress` : where a request stands after a step, whether it has ended or not;
* `Job.run_keeps` : what every step keeps is kept by a run;
* `Job.run_counts` : how far a run can count;
* `Job.aftermath` : what follows the entry for an attempt in the log.  `Job.step_events`: all that a
  step logs, in its order.  `Job.step_trail`: the attempt that it makes, if it sends anything.
-/

set_option autoImplicit false

namespace Failover

variable {σ τ : Type}

/-- Where the request stands then. -/
def Turn.progress : Turn σ τ → Progress σ τ
  | .over _ p => p
  | .on p => p

namespace Job

variable {R : Roster σ} {T : Transport τ} {j : Job} {p : Progress σ τ} {e : Endpoint}
  {request : Request}

/-! ## Whole runs -/

/-- What every step of a session that may continue keeps is kept by any number of steps. -/
theorem loop_keeps [DomainNames] {P : Progress σ τ → Prop}
    (hstep : ∀ p, p.session.mayContinue j.context.cancellation p.now = true → P p →
      P (j.step R T p).progress) :
    ∀ (n : Nat) (p : Progress σ τ), P p → P (j.loop R T n p).2
  | 0, _, hp => hp
  | n + 1, p, hp => by
    unfold loop
    split
    · rename_i hmay
      have hnext := hstep p hmay hp
      rcases hs : j.step R T p with ⟨outcome, q⟩ | q
      · rw [hs] at hnext
        exact hnext
      · rw [hs] at hnext
        exact loop_keeps hstep n q hnext
    · exact hp

theorem run_keeps [DomainNames] {P : Progress σ τ → Prop} {w : World σ τ}
    (hstep : ∀ p, p.session.mayContinue j.context.cancellation p.now = true → P p →
      P (j.step R T p).progress)
    (hbegin : P (j.begin R w)) : P (j.run R T w).2 :=
  loop_keeps hstep _ _ hbegin

/-- What is counted is in step: every failure is one of an attempt, every attempt was at a host that the
    session handed out, and the session hands out no more than `most`. -/
structure Counted (most : Nat) (p : Progress σ τ) : Prop where
  failed : p.tally.failed ≤ p.tally.attempts
  attempts : p.tally.attempts ≤ p.session.attempts
  most : p.session.attempts + p.session.bound = most

/-- Asking the session for a host keeps the counts in step. -/
theorem Counted.handedOut {most : Nat} (h : Counted most p) (R : Roster σ) (j : Job) :
    Counted most (p.handedOut (j.asked R p)) where
  failed := h.failed
  attempts := by
    have hnext := p.session.attempts_next R j.context.cancellation p.now p.roster
    exact Nat.le_trans h.attempts (hnext ▸ Nat.le_add_right _ _)
  most := (p.session.attempts_add_bound_next R j.context.cancellation p.now p.roster).trans h.most

/-- So does an attempt at the host that was handed out, failed or not. -/
theorem Counted.sent [DomainNames] {most : Nat} {q : Progress σ τ} (h : Counted most p)
    (sent : Sent R T j p q e request)
    (tally : q.tally = p.tally.begin ∨ q.tally = p.tally.begin.fail) : Counted most q where
  failed := by
    obtain tally | tally := tally
    · rw [tally]
      exact Nat.le_trans h.failed (Nat.le_succ _)
    · rw [tally]
      exact Nat.succ_le_succ h.failed
  attempts := by
    have hasked : (j.asked R p).session.attempts = p.session.attempts + 1 := by
      have hnext := p.session.attempts_next R j.context.cancellation p.now p.roster
      have hok : (p.session.next R j.context.cancellation p.now p.roster).host = .ok e := sent.asked
      rw [hok] at hnext
      exact hnext
    have hone : q.tally.attempts = p.tally.attempts + 1 := by
      obtain tally | tally := tally <;> rw [tally] <;> rfl
    rw [sent.session, hasked, hone]
    exact Nat.succ_le_succ h.attempts
  most := by
    rw [sent.session]
    exact (h.handedOut R j).most

/-- Every step keeps the counts in step. -/
theorem Counted.step [DomainNames] {most : Nat} (h : Counted most p) (R : Roster σ)
    (T : Transport τ) (j : Job) : Counted most (j.step R T p).progress := by
  obtain ⟨q, e, request, hstep, hr⟩ | ⟨o, q, hstep, hc⟩ := step_cases R T j p
  · rw [hstep]
    exact h.sent hr.toSent (.inr hr.tally)
  · rw [hstep]
    cases hc with
    | unsupplied _ => exact ⟨h.failed, (h.handedOut R j).attempts, (h.handedOut R j).most⟩
    | unnamed _ _ => exact h.handedOut R j
    | unprepared _ _ _ => exact h.handedOut R j
    | answered sent _ tally _ _ => exact h.sent sent (.inl tally)
    | broken sent _ tally _ _ => exact h.sent sent (.inr tally)
    | doubtful sent _ tally _ _ _ => exact h.sent sent (.inr tally)

/-- A request begins with nothing counted. -/
theorem counted_begin (R : Roster σ) (j : Job) (w : World σ τ) :
    Counted (match j.client.policy with
      | .eachOnce => (R.candidates j.supplied w.roster).value.length
      | .backoff plan => plan.budget) (j.begin R w) where
  failed := Nat.le_refl _
  attempts := Nat.zero_le _
  most := by
    show (Session.start R j.client.policy j.supplied w.roster).value.attempts +
      (Session.start R j.client.policy j.supplied w.roster).value.bound = _
    unfold Session.start
    cases j.client.policy <;> exact Nat.zero_add _

/-- **How far a run counts.**  The session hands out no more hosts than there were when it began, or than
    its budget allows, there are at most as many attempts, and no more failures than attempts.  With fewer
    than `2 ^ 32` candidates all these numbers therefore fit in 32 bits, where every budget that a
    configuration can name fits as well. -/
theorem run_counts [DomainNames] (R : Roster σ) (T : Transport τ) (j : Job) (w : World σ τ) :
    let p := (j.run R T w).2
    p.tally.failed ≤ p.tally.attempts ∧ p.tally.attempts ≤ p.session.attempts ∧
      p.session.attempts ≤ match j.client.policy with
        | .eachOnce => (R.candidates j.supplied w.roster).value.length
        | .backoff plan => plan.budget := by
  have hrun := run_keeps (fun p _ h => h.step R T j) (counted_begin R j w)
  exact ⟨hrun.failed, hrun.attempts, Nat.le_trans (Nat.le_add_right _ _) (Nat.le_of_eq hrun.most)⟩

/-! ## One step -/

/-- What is logged when a candidate is reported as failed. -/
def reportEvents (R : Roster σ) (j : Job) (p : Progress σ τ) (e : Endpoint) : List Event :=
  let heard := R.report e (j.asked R p).state
  heard.events ++ Progress.refusalEvents j.client.shortName e heard.value

/-- What follows the entry for an attempt in the log. -/
def aftermath (R : Roster σ) (T : Transport τ) (j : Job) (p : Progress σ τ) (e : Endpoint)
    (request : Request) : List Event :=
  match j.client.verdict j.request.method (T.send request p.transport).outcome with
  | .answered _ => []
  | .unwell _ => j.reportEvents R p e
  | .broken f => [.notRetrying j.client.shortName e f]
  | .doubtful f =>
    j.reportEvents R p e ++ [.stateUnknown j.client.shortName e j.request.method.name f]
  | .unreached f => j.reportEvents R p e ++ [.tryingNext j.client.shortName e f]

/-- What follows from an attempt is logged behind the entry for it. -/
theorem settle_events (R : Roster σ) (T : Transport τ) (j : Job) (p : Progress σ τ) (e : Endpoint)
    (request : Request) :
    (j.settle R (attemptAt R T j p e request) (justSent R T j p e request)).progress.events =
      (justSent R T j p e request).events ++ j.aftermath R T p e request := by
  have hfailed : (justFailed R T j p e request).events =
      (justSent R T j p e request).events ++ j.reportEvents R p e :=
    List.append_assoc ..
  unfold aftermath
  cases ho : (T.send request p.transport).outcome with
  | ok r =>
    cases hr : r.isRecoverable with
    | true =>
      rw [settle_unwell ho hr, Client.verdict, hr]
      exact hfailed
    | false =>
      rw [settle_answered ho hr, Client.verdict, hr]
      exact (List.append_nil _).symm
  | error f =>
    cases hio : f.isIo with
    | false =>
      rw [settle_broken ho hio, Client.verdict, hio]
      rfl
    | true =>
      cases hm : j.client.mayRepeat j.request.method f with
      | true =>
        rw [settle_unreached ho hio hm, Client.verdict, hio, hm]
        exact (congrArg (· ++ _) hfailed).trans (List.append_assoc ..)
      | false =>
        rw [settle_doubtful ho hio hm, Client.verdict, hio, hm]
        exact (congrArg (· ++ _) hfailed).trans (List.append_assoc ..)

/-- What is logged when a request is not sent, for want of a host. -/
def stopEvents (R : Roster σ) (j : Job) (p : Progress σ τ) : List Event :=
  match (j.asked R p).host with
  | .error f => p.endEvents f
  | .ok _ => []

theorem mem_stopEvents {R : Roster σ} {j : Job} {p : Progress σ τ} {ev : Event}
    (h : ev ∈ j.stopEvents R p) : ∃ f, ev = .endedEarly f := by
  unfold stopEvents at h
  split at h
  · exact ⟨_, Progress.mem_endEvents h⟩
  · cases h

/-- **All that a step logs.**  If the request is sent: what the session logs, what letting go of an
    earlier answer logs, the entry for the attempt, and what follows it.  If not, what the session logs
    and perhaps that it ended early. -/
theorem step_events [DomainNames] (R : Roster σ) (T : Transport τ) (j : Job) (p : Progress σ τ) :
    (∃ e request, Sendable R j p e request ∧
      (j.step R T p).progress.events = p.events ++ ((j.asked R p).events ++
        (p.response.elim [] (Progress.releaseEvents j.client.shortName) ++
          (.attemptFinished
            (j.client.attemptReport j.context.transactionId (attemptAt R T j p e request)) ::
              j.aftermath R T p e request)))) ∨
    ((∀ e request, ¬ Sendable R j p e request) ∧
      (j.step R T p).progress.events =
        p.events ++ ((j.asked R p).events ++ j.stopEvents R p)) := by
  by_cases hs : ∃ e request, Sendable R j p e request
  · obtain ⟨e, request, hs⟩ := hs
    refine Or.inl ⟨e, request, hs, ?_⟩
    rw [step_of_sendable hs, settle_events]
    simp [justSent]
  · have hnone : ∀ e request, ¬ Sendable R j p e request := fun e request h => hs ⟨e, request, h⟩
    refine Or.inr ⟨hnone, ?_⟩
    obtain ⟨q, e, request, -, hr⟩ | ⟨o, q, hstep, hc⟩ := step_cases R T j p
    · exact absurd hr.toSendable (hnone e request)
    · rw [hstep]
      unfold stopEvents
      cases hc with
      | unsupplied none =>
        rw [none]
        exact List.append_assoc ..
      | unnamed asked | unprepared asked =>
        rw [asked, List.append_nil]
        rfl
      | answered sent | broken sent | doubtful sent =>
        exact absurd sent.toSendable (hnone _ _)

/-! ## The attempts of a step -/

theorem settle_trail (R : Roster σ) (j : Job) (a : Attempt) (p : Progress σ τ) :
    (j.settle R a p).progress.trail = p.trail := by
  unfold settle
  split <;> simp [Turn.progress, Progress.report_eq, Progress.countFailure, Progress.note]

/-- A request that can be sent is sent, and no other. -/
theorem step_trail [DomainNames] (R : Roster σ) (T : Transport τ) (j : Job) (p : Progress σ τ) :
    (∀ e request, Sendable R j p e request →
      (j.step R T p).progress.trail = p.trail ++ [attemptAt R T j p e request]) ∧
    ((∀ e request, ¬ Sendable R j p e request) → (j.step R T p).progress.trail = p.trail) := by
  constructor
  · intro e request hs
    rw [step_of_sendable hs, settle_trail]
    rfl
  · intro hnone
    obtain ⟨q, e, request, -, hr⟩ | ⟨o, q, hstep, hc⟩ := step_cases R T j p
    · exact absurd hr.toSendable (hnone e request)
    · rw [hstep]
      cases hc with
      | unsupplied | unnamed | unprepared => rfl
      | answered sent | broken sent | doubtful sent =>
        exact absurd sent.toSendable (hnone _ _)

end Job

end Failover
