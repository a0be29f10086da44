import Failover.Client.Execution
import Failover.Proofs.Fault
/-!
# One step of a request

What `Job.step` can do, said once, so that no proof about runs unfolds it again.

* `Job.Sent`, `Job.Reported` : one attempt was made, and its candidate was reported as failed;
* `Job.Retried` : the attempt failed in a way that leaves the request open;
* `Job.Closed` : the step ended the request, in one of its six ways;
* `Job.step_cases` : every step does one or the other.
-/

set_option autoImplicit false

namespace Failover

variable {σ τ : Type}

namespace Progress

theorem mem_releaseEvents {shortName : String} {kept : Option Response} {ev : Event}
    (h : ev ∈ kept.elim [] (releaseEvents shortName)) :
    (∃ status, ev = .bodyDropped status) ∨ ∃ f, ev = .releaseFailed shortName f := by
  cases kept with
  | none => cases h
  | some r =>
    rw [Option.elim_some, releaseEvents] at h
    rcases List.mem_append.mp h with h | h
    · split at h
      · exact Or.inl ⟨_, List.mem_singleton.mp h⟩
      · cases h
    · split at h
      · cases h
      · exact Or.inr ⟨_, List.mem_singleton.mp h⟩

theorem mem_endEvents {p : Progress σ τ} {f : Failure} {ev : Event} (h : ev ∈ p.endEvents f) :
    ev = .endedEarly f := by
  unfold endEvents at h
  split at h
  · cases h
  · exact List.mem_singleton.mp h

/-- What is logged when a provider refuses a report. -/
def refusalEvents (shortName : String) (e : Endpoint) : Except Failure Unit → List Event
  | .ok () => []
  | .error f => [.feedbackRejected shortName e f]

/-- A report reaches the providers and is kept, whether it is accepted or not. -/
theorem report_eq (R : Roster σ) (shortName : String) (e : Endpoint) (p : Progress σ τ) :
    p.report R shortName e = { p with
      roster := (R.report e p.roster).state
      reports := p.reports ++ [e]
      events := p.events ++ (R.report e p.roster).events ++
        refusalEvents shortName e (R.report e p.roster).value } := by
  unfold report
  cases h : (R.report e p.roster).value <;> simp [h, refusalEvents, note]

/-- A request that ends without a final attempt ends with an answer only if it kept one. -/
theorem response_of_conclusion {p : Progress σ τ} {f : Failure} {r : Response}
    (h : p.conclusion f = .ok r) : p.response = some r := by
  unfold conclusion at h
  split at h
  · rename_i _ _ hresponse
    cases h
    exact hresponse
  · cases h
  · cases h

end Progress

namespace Job

variable (R : Roster σ) (T : Transport τ) (j : Job)

/-- What the session answers when the request asks for its next host. -/
def asked (p : Progress σ τ) : Handout σ :=
  p.session.next R j.context.cancellation p.now p.roster

/-- The attempt at a host: the request goes out when the session has handed it out, after the answer
    that is kept has been let go of. -/
def attemptAt (p : Progress σ τ) (e : Endpoint) (request : Request) : Attempt :=
  let d := T.send request p.transport
  ⟨e, request, (j.asked R p).now, p.response.map (·.drain.1), d.outcome, d.elapsed⟩

/-- The host is one that the request can be sent to. -/
structure Sendable [DomainNames] (p : Progress σ τ) (e : Endpoint) (request : Request) : Prop where
  asked : (j.asked R p).host = .ok e
  named : e.host.isEmpty = false
  prepared : j.client.prepare j.request e j.context = .ok request

/-- One attempt was made at `e`, and `q` is where the request stands after it. -/
structure Sent [DomainNames] (p q : Progress σ τ) (e : Endpoint) (request : Request) : Prop
    extends Sendable R j p e request where
  session : q.session = (j.asked R p).session
  transport : q.transport = (T.send request p.transport).state
  now : q.now = (j.asked R p).now + (T.send request p.transport).elapsed.nanos
  trail : q.trail = p.trail ++ [attemptAt R T j p e request]

/-- The candidate was reported as failed. -/
structure Reported (p q : Progress σ τ) (e : Endpoint) : Prop where
  roster : q.roster = (R.report e (j.asked R p).state).state
  reports : q.reports = p.reports ++ [e]

/-- The candidate was not reported, and the state of the providers is as the session left it. -/
structure Unreported (p q : Progress σ τ) : Prop where
  roster : q.roster = (j.asked R p).state
  reports : q.reports = p.reports

/-- The attempt failed in a way that leaves the request open. -/
structure Retried [DomainNames] (p q : Progress σ τ) (e : Endpoint) (request : Request) : Prop
    extends Sent R T j p q e request, Reported R j p q e where
  tally : q.tally = p.tally.begin.fail
  kept :
    (∃ r, (T.send request p.transport).outcome = .ok r ∧ r.isRecoverable = true ∧
      q.response = some r ∧ q.fault = p.fault) ∨
    (∃ f, (T.send request p.transport).outcome = .error f ∧ f.isIo = true ∧
      j.client.mayRepeat j.request.method f = true ∧
      q.response = p.response.map (·.drain.1) ∧ q.fault = some f)

/-- The ways in which a step ends a request, with the result and where the request stands then. -/
inductive Closed [DomainNames] (p : Progress σ τ) :
    Except Failure Response → Progress σ τ → Prop where
  | unsupplied {f : Failure} (asked : (j.asked R p).host = .error f) :
    Closed p ((p.handedOut (j.asked R p)).conclusion f) ((p.handedOut (j.asked R p)).endEarly f)
  | unnamed {e : Endpoint} (asked : (j.asked R p).host = .ok e) (unnamed : e.host.isEmpty = true) :
    Closed p (.error (.invariantViolation (.emptyHost j.supplied))) (p.handedOut (j.asked R p))
  | unprepared {e : Endpoint} {cause : BadRequest} (asked : (j.asked R p).host = .ok e)
    (named : e.host.isEmpty = false)
    (unprepared : j.client.prepare j.request e j.context = .error (.invalidRequest cause)) :
    Closed p (.error (.invalidRequest cause)) (p.handedOut (j.asked R p))
  | answered {q : Progress σ τ} {e : Endpoint} {request : Request} {r : Response}
    (sent : Sent R T j p q e request) (unreported : Unreported R j p q)
    (tally : q.tally = p.tally.begin)
    (outcome : (T.send request p.transport).outcome = .ok r) (fine : r.isRecoverable = false) :
    Closed p (.ok r) q
  | broken {q : Progress σ τ} {e : Endpoint} {request : Request} {f : Fault}
    (sent : Sent R T j p q e request) (unreported : Unreported R j p q)
    (tally : q.tally = p.tally.begin.fail)
    (outcome : (T.send request p.transport).outcome = .error f) (other : f.isIo = false) :
    Closed p (.error (.transport f)) q
  | doubtful {q : Progress σ τ} {e : Endpoint} {request : Request} {f : Fault}
    (sent : Sent R T j p q e request) (reported : Reported R j p q e)
    (tally : q.tally = p.tally.begin.fail)
    (outcome : (T.send request p.transport).outcome = .error f) (io : f.isIo = true)
    (once : j.client.mayRepeat j.request.method f = false) :
    Closed p (.error (.transport f)) q

end Job

/-! ## Requests that cannot be prepared -/

theorem Request.retarget_error [DomainNames] {r : Request} {e : Endpoint} {f : Failure}
    (h : r.retarget e = .error f) : ∃ cause, f = .invalidRequest cause := by
  unfold Request.retarget at h
  split at h
  · cases h; exact ⟨_, rfl⟩
  · split at h
    · cases h; exact ⟨_, rfl⟩
    · cases h

theorem Client.agentHeader_error {c : Client} {id : Option String} {f : Failure}
    (h : c.agentHeader id = .error f) : ∃ cause, f = .invalidRequest cause := by
  unfold Client.agentHeader at h
  split at h
  · cases h
  · cases h; exact ⟨_, rfl⟩

theorem Client.tag_error {c : Client} {id : Option String} {r : Request} {f : Failure}
    (h : c.tag id r = .error f) : ∃ cause, f = .invalidRequest cause := by
  unfold Client.tag at h
  split at h
  · split at h
    · cases h
    · cases h; exact ⟨_, rfl⟩
  · cases h

/-- Nothing but an invalid request keeps a client from preparing one. -/
theorem Client.prepare_error [DomainNames] {c : Client} {r : Request} {e : Endpoint}
    {context : Context} {f : Failure} (h : c.prepare r e context = .error f) :
    ∃ cause, f = .invalidRequest cause := by
  unfold Client.prepare at h
  cases ha : r.retarget (e.withDefaultPort candidatePort) with
  | error g =>
    rw [ha] at h
    cases h
    exact Request.retarget_error ha
  | ok aimed =>
    rw [ha] at h
    cases hg : c.agentHeader context.transactionId with
    | error g =>
      rw [hg] at h
      cases h
      exact Client.agentHeader_error hg
    | ok agent =>
      rw [hg] at h
      exact Client.tag_error h

/-! ## Answers after which another host is tried -/

theorem Response.isRecoverable_iff (r : Response) :
    r.isRecoverable = true ↔ r.status = 500 ∨ r.status = 503 ∨ r.status = 504 := by
  simp [isRecoverable, isRecoverableStatus, or_assoc]

/-! ## Requests that must not be repeated -/

/-- A request must not be repeated if its fault leaves doubt, its method is POST or PATCH and the
    opt-in is off. -/
theorem Client.mayRepeat_eq_false_iff (c : Client) (m : Method) (f : Fault) :
    c.mayRepeat m f = false ↔
      f.LeavesDoubt ∧ (m.name = "POST" ∨ m.name = "PATCH") ∧ c.retryNonIdempotent = false := by
  have hmethod : m.isIdempotent = false ↔ m.name = "POST" ∨ m.name = "PATCH" := by
    unfold Method.isIdempotent
    rw [Bool.and_eq_false_iff, bne_eq_false_iff_eq, bne_eq_false_iff_eq]
  unfold mayRepeat
  rw [Bool.or_eq_false_iff, Bool.or_eq_false_iff, Bool.not_eq_false', Fault.isUncertain_iff,
    hmethod, and_assoc]

/-! ## One step -/

namespace Job

/-- Where a request stands right after a send, before anything follows from the answer. -/
def justSent (R : Roster σ) (T : Transport τ) (j : Job) (p : Progress σ τ) (e : Endpoint)
    (request : Request) : Progress σ τ where
  session := (j.asked R p).session
  roster := (j.asked R p).state
  transport := (T.send request p.transport).state
  now := (j.asked R p).now + (T.send request p.transport).elapsed.nanos
  response := p.response.map (·.drain.1)
  fault := p.fault
  tally := p.tally.begin
  trail := p.trail ++ [attemptAt R T j p e request]
  reports := p.reports
  events := p.events ++ (j.asked R p).events
    ++ p.response.elim [] (Progress.releaseEvents j.client.shortName)
    ++ [.attemptFinished
      (j.client.attemptReport j.context.transactionId (attemptAt R T j p e request))]

/-- Where a request stands once the candidate of that send has been reported as failed. -/
def justFailed (R : Roster σ) (T : Transport τ) (j : Job) (p : Progress σ τ) (e : Endpoint)
    (request : Request) : Progress σ τ :=
  let heard := R.report e (j.asked R p).state
  let sent := justSent R T j p e request
  { sent with
    roster := heard.state
    tally := sent.tally.fail
    reports := sent.reports ++ [e]
    events := sent.events ++ heard.events
      ++ Progress.refusalEvents j.client.shortName e heard.value }

variable {R : Roster σ} {T : Transport τ} {j : Job} {p : Progress σ τ} {e : Endpoint}
  {request : Request}

/-- A host that can be sent to is sent to, and the answer settles what follows. -/
theorem step_of_sendable [DomainNames] (h : Sendable R j p e request) :
    j.step R T p = j.settle R (attemptAt R T j p e request) (justSent R T j p e request) := by
  have ha : (p.session.next R j.context.cancellation p.now p.roster).host = .ok e := h.asked
  have hsent : j.attempt T e request ((p.handedOut (j.asked R p)).release j.client.shortName) =
      (attemptAt R T j p e request, justSent R T j p e request) := by
    simp only [attempt, Progress.release]
    rfl
  have hstep : j.step R T p = (fun sent => j.settle R sent.1 sent.2)
      (j.attempt T e request ((p.handedOut (j.asked R p)).release j.client.shortName)) := by
    simp only [step, ha, h.named, h.prepared]
    rfl
  rw [hstep, hsent]

theorem report_justSent : (justSent R T j p e request).countFailure.report R j.client.shortName e =
    justFailed R T j p e request :=
  Progress.report_eq R _ e _

theorem settle_answered {r : Response} (ho : (T.send request p.transport).outcome = .ok r)
    (hr : r.isRecoverable = false) :
    j.settle R (attemptAt R T j p e request) (justSent R T j p e request) =
      .over (.ok r) (justSent R T j p e request) := by
  simp only [settle, attemptAt, ho, Client.verdict, hr]
  rfl

theorem settle_unwell {r : Response} (ho : (T.send request p.transport).outcome = .ok r)
    (hr : r.isRecoverable = true) :
    j.settle R (attemptAt R T j p e request) (justSent R T j p e request) =
      .on { justFailed R T j p e request with response := some r } := by
  rw [← report_justSent]
  simp only [settle, attemptAt, ho, Client.verdict, hr]
  rfl

theorem settle_broken {f : Fault} (ho : (T.send request p.transport).outcome = .error f)
    (hio : f.isIo = false) :
    j.settle R (attemptAt R T j p e request) (justSent R T j p e request) =
      .over (.error (.transport f)) ((justSent R T j p e request).countFailure.note
        (.notRetrying j.client.shortName e f)) := by
  simp only [settle, attemptAt, ho, Client.verdict, hio]
  rfl

theorem settle_doubtful {f : Fault} (ho : (T.send request p.transport).outcome = .error f)
    (hio : f.isIo = true) (hm : j.client.mayRepeat j.request.method f = false) :
    j.settle R (attemptAt R T j p e request) (justSent R T j p e request) =
      .over (.error (.transport f)) ((justFailed R T j p e request).note
        (.stateUnknown j.client.shortName e j.request.method.name f)) := by
  rw [← report_justSent]
  simp only [settle, attemptAt, ho, Client.verdict, hio, hm]
  rfl

theorem settle_unreached {f : Fault} (ho : (T.send request p.transport).outcome = .error f)
    (hio : f.isIo = true) (hm : j.client.mayRepeat j.request.method f = true) :
    j.settle R (attemptAt R T j p e request) (justSent R T j p e request) =
      .on { (justFailed R T j p e request).note (.tryingNext j.client.shortName e f) with
        fault := some f } := by
  rw [← report_justSent]
  simp only [settle, attemptAt, ho, Client.verdict, hio, hm]
  rfl

/-- A step after which the request is still open was a failed attempt, and any other step closed
    it. -/
theorem step_cases [DomainNames] (R : Roster σ) (T : Transport τ) (j : Job) (p : Progress σ τ) :
    (∃ q e request, j.step R T p = .on q ∧ Retried R T j p q e request) ∨
    (∃ o q, j.step R T p = .over o q ∧ Closed R T j p o q) := by
  cases ha : (j.asked R p).host with
  | error f =>
    have ha' : (p.session.next R j.context.cancellation p.now p.roster).host = .error f := ha
    exact Or.inr ⟨_, _, by simp only [step, ha']; rfl, .unsupplied ha⟩
  | ok e =>
    have ha' : (p.session.next R j.context.cancellation p.now p.roster).host = .ok e := ha
    cases hn : e.host.isEmpty with
    | true => exact Or.inr ⟨_, _, by simp only [step, ha', hn]; rfl, .unnamed ha hn⟩
    | false =>
      cases hp : j.client.prepare j.request e j.context with
      | error f =>
        obtain ⟨cause, rfl⟩ := Client.prepare_error hp
        exact Or.inr ⟨_, _, by simp only [step, ha', hn, hp]; rfl, .unprepared ha hn hp⟩
      | ok request =>
        have hs : Sendable R j p e request := ⟨ha, hn, hp⟩
        have hstep := step_of_sendable (T := T) hs
        cases ho : (T.send request p.transport).outcome with
        | ok r =>
          cases hr : r.isRecoverable with
          | true =>
            exact Or.inl ⟨_, e, request, hstep.trans (settle_unwell ho hr),
              ⟨⟨hs, rfl, rfl, rfl, rfl⟩, ⟨rfl, rfl⟩, rfl, Or.inl ⟨r, ho, hr, rfl, rfl⟩⟩⟩
          | false =>
            exact Or.inr ⟨_, _, hstep.trans (settle_answered ho hr),
              .answered ⟨hs, rfl, rfl, rfl, rfl⟩ ⟨rfl, rfl⟩ rfl ho hr⟩
        | error f =>
          cases hio : f.isIo with
          | false =>
            exact Or.inr ⟨_, _, hstep.trans (settle_broken ho hio),
              .broken ⟨hs, rfl, rfl, rfl, rfl⟩ ⟨rfl, rfl⟩ rfl ho hio⟩
          | true =>
            cases hm : j.client.mayRepeat j.request.method f with
            | true =>
              exact Or.inl ⟨_, e, request, hstep.trans (settle_unreached ho hio hm),
                ⟨⟨hs, rfl, rfl, rfl, rfl⟩, ⟨rfl, rfl⟩, rfl, Or.inr ⟨f, ho, hio, hm, rfl, rfl⟩⟩⟩
            | false =>
              exact Or.inr ⟨_, _, hstep.trans (settle_doubtful ho hio hm),
                .doubtful ⟨hs, rfl, rfl, rfl, rfl⟩ ⟨rfl, rfl⟩ rfl ho hio hm⟩

end Job

end Failover
