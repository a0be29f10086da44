import Failover.Proofs.Client.Outcome
import Failover.Proofs.Client.Prepared
import Failover.Proofs.Client.Schedule
import Failover.Proofs.Provider.Steady
/-!
# Giving up on a request

What a caller that gives up at some instant still sees of a request with pauses between its attempts.

* `Job.Paced` : where a run with pauses stands.  `Job.Retried.paced`: every failed attempt keeps this;
* `Job.Before.started_eq` : an attempt begins when the pause before it is over, or when the caller gives
  up meanwhile.  Everything about attempts and their instants follows from this;
* `Request.Addresses` : the endpoints that a request can be aimed at;
* `Client.cancellation_stops` : all that follows from giving up.
-/

set_option autoImplicit false

namespace Failover

variable {σ τ : Type}

/-- The request can be aimed at the endpoint, which has a name. -/
structure Request.Addresses [DomainNames] (r : Request) (e : Endpoint) : Prop where
  named : e.host.isEmpty = false
  aimed : ∃ q, r.retarget (e.withDefaultPort Client.candidatePort) = .ok q

/-- A client that could prepare a request for one endpoint can prepare any request for each that the
    request can be aimed at. -/
theorem Client.prepare_of_prepared [DomainNames] {c : Client} {r sent : Request} {e e' : Endpoint}
    {context : Context} (h : c.prepare r e context = .ok sent) (ha : r.Addresses e') :
    ∃ sent', c.prepare r e' context = .ok sent' := by
  obtain ⟨aimed, agent, -, hagent, htag⟩ := prepare_ok h
  obtain ⟨aimed', haimed'⟩ := ha.aimed
  have hsigned : c.agentHeader context.transactionId = .ok agent := by rw [agentHeader, hagent]
  have hprepare : c.prepare r e' context =
      c.tag context.transactionId (aimed'.setHeader .userAgent agent) := by
    rw [prepare, haimed', hsigned]
    rfl
  rw [hprepare]
  unfold tag at htag ⊢
  split at htag
  · split at htag
    · exact ⟨_, rfl⟩
    · cases htag
  · exact ⟨_, rfl⟩

/-- The result that attempts determine if there is no other: that of the last if it ends the request,
    or else the most recent answer, or else the most recent fault, or else that there were none. -/
def Job.resultOf (j : Job) (trail : List Attempt) : Except Failure Response :=
  (trail.getLast?.bind fun a => j.endsWith a.fate).getD (Fate.conclusion (trail.map (·.fate)))

namespace Job

variable {R : Roster σ} {T : Transport τ} {j : Job} {p q : Progress σ τ} {e : Endpoint}
  {request : Request} {plan : Backoff} {start t : Nat} {I : σ → Prop}

/-! ## Attempts and pauses -/

/-- Where a request stands that began at `start` and is tried by rounds: every host handed out was
    attempted, the request has been waiting since the last attempt, and all candidates are endpoints
    that it can be aimed at. -/
structure Paced [DomainNames] (plan : Backoff) (start : Nat) (I : σ → Prop) (j : Job)
    (p : Progress σ τ) : Prop where
  rounds : ∃ r, p.session = .rounds r ∧ r.plan = plan ∧ r.attempts = p.trail.length
  ready : p.now = Attempt.readyAfter start p.trail
  offers : Session.OffersOnly I j.request.Addresses p.session p.roster
  prepared : p.trail ≠ [] → ∀ {e : Endpoint}, j.request.Addresses e →
    ∃ request, j.client.prepare j.request e j.context = .ok request

theorem begin_paced [DomainNames] (hR : R.OffersOnly I j.request.Addresses)
    (hpolicy : j.client.policy = .backoff plan) {w : World σ τ} (hw : I w.roster) :
    Paced plan w.now I j (j.begin R w) where
  rounds := by
    unfold begin
    rw [hpolicy]
    exact ⟨_, rfl, rfl, rfl⟩
  ready := rfl
  offers := Session.start_offersOnly hR _ _ hw
  prepared := fun h => absurd rfl h

theorem Paced.scheduled [DomainNames] (hp : Paced plan start I j p) : Scheduled plan start p := by
  obtain ⟨r, hsession, hplan, hattempts⟩ := hp.rounds
  refine ⟨Session.plan?_eq_some.mpr ⟨r, hsession, hplan⟩, ?_, hp.ready⟩
  rw [hsession]
  exact hattempts

/-- Only until the caller gives up may the session continue. -/
theorem Paced.now_lt [DomainNames] (hp : Paced plan start I j p)
    (ht : j.context.cancellation = ⟨some t⟩)
    (hmay : p.session.mayContinue j.context.cancellation p.now = true) : p.now < t := by
  obtain ⟨r, hsession, -⟩ := hp.rounds
  rw [hsession, ht] at hmay
  simp only [Session.mayContinue, Rounds.mayContinue, Cancellation.isCancelled, Bool.and_eq_true,
    Bool.not_eq_true', decide_eq_false_iff_not, Nat.not_le] at hmay
  exact hmay.1.1.2

/-- A pause in which the caller gives up ends there. -/
theorem Paced.asked_now [DomainNames] (hp : Paced plan start I j p)
    (he : (j.asked R p).host = .ok e) (ht : j.context.cancellation = ⟨some t⟩)
    (hlater : p.now < t) :
    (j.asked R p).now = min (p.now + (plan.delayAfter p.trail.length).nanos) t := by
  rw [hp.scheduled.asked_now he, ht]
  simp only [Cancellation.wakeAt]
  omega

theorem Retried.paced [DomainNames] (hR : R.OffersOnly I j.request.Addresses)
    (h : Retried R T j p q e request) (hp : Paced plan start I j p) : Paced plan start I j q where
  rounds := by
    have hq := h.scheduled hp.scheduled
    obtain ⟨r, hsession, hplan⟩ := Session.plan?_eq_some.mp hq.planned
    refine ⟨r, hsession, hplan, ?_⟩
    rw [← hq.attempts, hsession]
    rfl
  ready := (h.scheduled hp.scheduled).ready
  offers := by
    have hasked := (hp.offers.next hR j.context.cancellation p.now).1
    refine ⟨?_, ?_⟩
    · rw [h.roster]
      exact hR.report e hasked.state
    · rw [h.session]
      exact hasked.waiting
  prepared := fun _ _ => Client.prepare_of_prepared h.prepared

/-- A host that a request can be aimed at is sent to, unless the request cannot be prepared. -/
theorem Closed.attempted [DomainNames] {o : Except Failure Response} (h : Closed R T j p o q)
    (he : (j.asked R p).host = .ok e) (ha : j.request.Addresses e) :
    (∃ request, q.trail = p.trail ++ [attemptAt R T j p e request] ∧
      q.now = (attemptAt R T j p e request).finished ∧
      j.endsWith (attemptAt R T j p e request).fate = some o) ∨
    ((∀ request, j.client.prepare j.request e j.context ≠ .ok request) ∧
      q = p.handedOut (j.asked R p)) := by
  obtain ⟨fate, -, -, hover, hlast⟩ := h.endsWith he []
  have hsent : ∀ {e' request}, Sent R T j p q e' request →
      ∃ request, q.trail = p.trail ++ [attemptAt R T j p e request] ∧
        q.now = (attemptAt R T j p e request).finished ∧
        j.endsWith (attemptAt R T j p e request).fate = some o := by
    intro e' request sent
    cases he.symm.trans sent.asked
    refine ⟨request, sent.trail, sent.now, ?_⟩
    obtain ⟨-, hnone⟩ | ⟨a, -, rfl, hone⟩ := hlast
    · rw [sent.trail] at hnone
      simp at hnone
    · rw [sent.trail] at hone
      have hsame : attemptAt R T j p e request = a :=
        List.singleton_inj.mp (List.append_cancel_left hone)
      rw [hsame]
      exact hover
  cases h with
  | unsupplied none => cases he.symm.trans none
  | unnamed asked unnamed =>
    cases he.symm.trans asked
    rw [ha.named] at unnamed
    cases unnamed
  | unprepared asked _ unprepared =>
    cases he.symm.trans asked
    refine Or.inr ⟨?_, rfl⟩
    intro request hrequest
    cases hrequest.symm.trans unprepared
  | answered sent | broken sent | doubtful sent => exact Or.inl (hsent sent)

section

variable [DomainNames] (hR : R.OffersOnly I j.request.Addresses)
  (hpolicy : j.client.policy = .backoff plan)
  (ht : j.context.cancellation = ⟨some t⟩) {w : World σ τ} (hw : I w.roster)
include hR hpolicy hw

theorem Reaches.paced {m : Progress σ τ} (h : Reaches R T j (j.begin R w) m) :
    Paced plan w.now I j m :=
  h.keeps (fun hr => hr.paced hR) (begin_paced hR hpolicy hw)

include ht

/-- **An attempt begins when the pause before it is over, or when the caller gives up meanwhile**, and
    after an attempt that is over later there is no other. -/
theorem run_started (pre : List Attempt) (a : Attempt) (post : List Attempt)
    (htrail : (j.run R T w).2.trail = pre ++ a :: post) :
    Attempt.readyAfter w.now pre < t ∧
      a.started =
        min (Attempt.readyAfter w.now pre + (plan.delayAfter pre.length).nanos) t ∧
      (t ≤ a.finished → post = []) := by
  have hbegins : ∀ {pre post : List Attempt} {a : Attempt},
      (j.run R T w).2.trail = pre ++ a :: post → Attempt.readyAfter w.now pre < t ∧
        a.started = min (Attempt.readyAfter w.now pre + (plan.delayAfter pre.length).nanos) t := by
    intro pre post a htrail
    obtain ⟨m, hm, rfl⟩ := run_before R T j w htrail
    have hpaced := hm.reached.paced hR hpolicy hw
    have hlater : m.now < t := hpaced.now_lt ht hm.mayContinue
    have hstarted : a.started = (j.asked R m).now := by rw [hm.attempt, attemptAt]
    rw [← hpaced.ready]
    exact ⟨hlater, hstarted.trans (hpaced.asked_now hm.asked ht hlater)⟩
  obtain ⟨hready, hstarted⟩ := hbegins htrail
  refine ⟨hready, hstarted, ?_⟩
  intro hover
  cases post with
  | nil => rfl
  | cons b post =>
    have hnext : (j.run R T w).2.trail = (pre ++ [a]) ++ b :: post := by
      rw [htrail, List.append_assoc]
      rfl
    obtain ⟨hlater, -⟩ := hbegins hnext
    rw [Attempt.readyAfter_concat] at hlater
    omega

/-- **A pause in which the caller gives up ends there**, with an attempt at the host that it was
    before, and that attempt is the last. -/
theorem run_cut_short {m : Progress σ τ} (hreach : Reaches R T j (j.begin R w) m)
    (hmay : m.session.mayContinue j.context.cancellation m.now = true)
    (hcut : t < m.now + (plan.delayAfter m.trail.length).nanos) :
    ∃ a, (j.run R T w).2.trail = m.trail ++ [a] ∧ a.started = t ∧
      (m.session.next R .never m.now m.roster).host = .ok a.candidate := by
  have hpaced := hreach.paced hR hpolicy hw
  have hlater : m.now < t := hpaced.now_lt ht hmay
  obtain ⟨e, he⟩ := asked_ok (R := R) hreach.consistent hmay
  have haddress : j.request.Addresses e := (hpaced.offers.next hR _ _).2 e he
  have hhost : (m.session.next R .never m.now m.roster).host = .ok e :=
    (m.session.host_next R _ _ _ _ _).trans he
  have hstarted : ∀ request, (attemptAt R T j m e request).started = t := by
    intro request
    show (j.asked R m).now = t
    rw [hpaced.asked_now he ht hlater]
    omega
  -- There is no pause before the first attempt.
  have hsome : m.trail ≠ [] := by
    intro hnone
    rw [hnone, List.length_nil, Backoff.delayAfter_zero] at hcut
    omega
  obtain last | ⟨b, e', request, hr, hb⟩ := hreach.run_step hmay
  · -- The attempt ends the request.
    obtain ⟨request, htrail, -, -⟩ | ⟨hnone, -⟩ := last.attempted he haddress
    · exact ⟨_, htrail, hstarted request, hhost⟩
    · obtain ⟨request, hrequest⟩ := hpaced.prepared hsome haddress
      exact absurd hrequest (hnone request)
  · -- The attempt leaves the request open, but the caller has given up when it is over.
    cases he.symm.trans hr.asked
    have hstopped : b.session.mayContinue j.context.cancellation b.now = false := by
      apply Bool.eq_false_iff.mpr
      intro hagain
      have hearly : b.now < t := (hr.paced hR hpaced).now_lt ht hagain
      have hfinished : b.now = (j.asked R m).now + _ := hr.now
      have hcut' : (j.asked R m).now = t := hstarted request
      omega
    rw [hb.run_spent hstopped]
    exact ⟨_, hr.trail, hstarted request, hhost⟩

/-- **A run ends as soon as its last attempt is over**, and if the caller has given up by then, its
    result is what the attempts determine. -/
theorem run_given_up :
    let run := j.run R T w
    run.2.now = Attempt.readyAfter w.now run.2.trail ∧
      (t ≤ run.2.now → run.1 = j.resultOf run.2.trail) := by
  intro run
  obtain ⟨q, hreach, hends⟩ := run_ends R T j w
  have hpaced := hreach.paced hR hpolicy hw
  change Ends R T j q run.1 run.2 at hends
  generalize run.1 = o, run.2 = q' at hends ⊢
  cases hends with
  | spent =>
    refine ⟨hpaced.ready, fun _ => ?_⟩
    obtain ⟨tried, htrail, hopen⟩ := hreach.trail
    have hnone : q.trail.getLast?.bind (fun a => j.endsWith a.fate) = none := by
      cases hlast : q.trail.getLast? with
      | none => rfl
      | some a =>
        have ha : a ∈ tried := by
          have hin := List.mem_of_getLast? hlast
          rwa [htrail] at hin
        exact (hopen a ha).endsWith
    rw [hreach.kept.conclusion, resultOf, hnone]
    rfl
  | closed hmay he last =>
    have hlater : q.now < t := hpaced.now_lt ht hmay
    have haddress := (hpaced.offers.next hR _ _).2 _ he
    obtain ⟨request, htrail, hnow, hover⟩ | ⟨hnone, rfl⟩ := last.attempted he haddress
    · rw [htrail, Attempt.readyAfter_concat]
      refine ⟨hnow, fun _ => ?_⟩
      rw [resultOf, List.getLast?_concat, Option.bind_some, hover]
      rfl
    · -- No request can be prepared, so this is the first host, and the caller is still patient.
      have hfirst : q.trail = [] := by
        by_contra hsome
        obtain ⟨request, hrequest⟩ := hpaced.prepared hsome haddress
        exact hnone request hrequest
      have hnow : (j.asked R q).now = q.now := by
        rw [hpaced.asked_now he ht hlater, hfirst, List.length_nil, Backoff.delayAfter_zero]
        omega
      show (j.asked R q).now = Attempt.readyAfter w.now q.trail ∧ (t ≤ (j.asked R q).now → _)
      rw [hnow]
      refine ⟨hpaced.ready, ?_⟩
      intro hlate
      omega

end

end Job

namespace Client

/-- **Giving up stops a request that is tried with pauses.**  Let all candidates be endpoints that the
    request can be aimed at, and let the caller give up at `t`.  The trail is all that the transport is
    sent, and:

    * who gives up before the first host is asked for sees no attempt;
    * an attempt begins when the pause before it is over, or at `t` if that is earlier, and one that is
      not over before `t` is the last; so at most one attempt begins at `t` or later;
    * where the request pauses at `t`, the host that would have been next is attempted at `t`, and no
      other after it;
    * the request ends as soon as its last attempt is over.  If that is not before `t`, the result is
      that of the last attempt if it ends the request, or else the most recent answer, or else the
      most recent fault, or else that there were no attempts. -/
theorem cancellation_stops [DomainNames] (R : Roster σ) (T : Transport τ) (c : Client) (r : Request)
    (context : Context) (w : World σ τ) {plan : Backoff} {supplied : Endpoint} {t : Nat}
    {I : σ → Prop} (hpolicy : c.policy = .backoff plan) (hplain : r.isSecure = false)
    (hend : r.endpoint = .ok supplied) (hsup : R.supports w.roster supplied = true)
    (ht : context.cancellation = ⟨some t⟩) (hw : I w.roster) (hR : R.OffersOnly I r.Addresses) :
    let j := c.job r supplied context
    let run := c.execute R T r context w
    T.replay w.transport (run.trail.map (·.request)) =
        (run.trail.map (·.outcome), run.world.transport) ∧
      (t ≤ w.now → run.trail = []) ∧
      (∀ pre a post, run.trail = pre ++ a :: post →
        Attempt.readyAfter w.now pre < t ∧
          a.started =
            min (Attempt.readyAfter w.now pre + (plan.delayAfter pre.length).nanos) t ∧
          (t ≤ a.finished → post = [])) ∧
      (run.trail.countP fun a => t ≤ a.started) ≤ 1 ∧
      (∀ m, j.Reaches R T (j.begin R w) m →
        m.session.mayContinue context.cancellation m.now = true →
        t < m.now + (plan.delayAfter m.trail.length).nanos →
        ∃ a, run.trail = m.trail ++ [a] ∧ a.started = t ∧
          (m.session.next R .never m.now m.roster).host = .ok a.candidate) ∧
      run.world.now = Attempt.readyAfter w.now run.trail ∧
      (t ≤ run.world.now → run.outcome = j.resultOf run.trail) := by
  intro j run
  have hrun : run = failOver R T j w := execute_eq_failOver T c context hplain hend hsup
  have hreplayed := Job.run_replayed R T j w
  have hstarted := Job.run_started (T := T) (j := j) hR hpolicy ht hw
  obtain ⟨hnow, hresult⟩ := Job.run_given_up (T := T) (j := j) hR hpolicy ht hw
  clear_value run
  subst hrun
  refine ⟨hreplayed, ?_, hstarted, ?_, ?_, hnow, hresult⟩
  · intro hearly
    cases htrail : (failOver R T j w).trail with
    | nil => rfl
    | cons a post =>
      obtain ⟨hready, -⟩ := hstarted [] a post htrail
      have hbegin : Attempt.readyAfter w.now [] = w.now := rfl
      omega
  · apply countP_le_one_of_last
    intro pre a post htrail hlate
    obtain ⟨-, -, hlast⟩ := hstarted pre a post htrail
    apply hlast
    have hbegan : t ≤ a.started := of_decide_eq_true hlate
    exact Nat.le_trans hbegan (Nat.le_add_right _ _)
  · intro m hreach hmay hcut
    exact Job.run_cut_short hR hpolicy ht hw hreach hmay hcut

end Client

/-- A source with a record offers its list, whatever it hears of. -/
theorem Provider.recording_offersOnly {P : Endpoint → Prop} (r : Recording)
    (h : ∀ e ∈ r.nodes, P e) :
    roster.OffersOnly
      (fun st => ∃ failures, st = .leaf (.recording { r with failures := failures })) P where
  candidates := by
    rintro st e ⟨failures, rfl⟩
    exact ⟨failures, rfl⟩
  report := by
    rintro st e ⟨failures, rfl⟩
    obtain ⟨failures', hstate⟩ := Source.report_state_recording { r with failures := failures } e
    refine ⟨failures', ?_⟩
    show Tree.leaf (Source.report e _).state = _
    rw [hstate]
  offered := by
    rintro st e ⟨failures, rfl⟩ c hc
    exact h c hc

namespace Rehearsal

theorem request_endpoint (method : String) :
    (request method).endpoint = .ok (.of "service" none) := by
  apply ok_of_toOption
  show (Endpoint.ofUrl (request "").url).toOption = _
  decide +kernel

/-- The candidates with their record. -/
def nodes : Recording :=
  ⟨"nodes", [.of "::1" none, .of "::2" none, .of "::3" none], true, []⟩

/-- The first of the candidates takes a hundredth of a second to answer that it is unwell. -/
def slowWorld : World Provider Script :=
  let unwell : Scripted := ⟨.ok ⟨503, .empty, .buffered []⟩, .ofMillis 10⟩
  { world with transport := ⟨[("[::1]:8080", [unwell]), ("[::2]:8080", [.ofFault late])], []⟩ }

/-- The caller gives up 0.05 seconds after the request began. -/
def hurried [DomainNames] : Execution Provider Script :=
  pausing.execute Provider.roster Script.transport (request "PUT") ⟨none, ⟨some 50000000⟩⟩ slowWorld

end Rehearsal

namespace Client

/-- The pause that would last until 0.11 seconds ends when the caller gives up, the second host is tried
    then and is the last, and the caller gets the answer of the first. -/
theorem rehearsed_cancellation :
    Rehearsal.hurried.trail.map (fun a => (a.candidate.host, a.started)) =
        [("::1", 0), ("::2", 50000000)] ∧
      ∃ r, Rehearsal.hurried.outcome = .ok r ∧ r.status = 503 := by
  have haddress : ∀ e ∈ Rehearsal.nodes.nodes, (Rehearsal.request "PUT").Addresses e := by
    have haimed : ∀ e ∈ Rehearsal.nodes.nodes, e.host.isEmpty = false ∧
        ((Rehearsal.request "PUT").retarget (e.withDefaultPort candidatePort)).isOk = true := by
      decide +kernel
    intro e he
    obtain ⟨hnamed, hok⟩ := haimed e he
    refine ⟨hnamed, ?_⟩
    cases hq : (Rehearsal.request "PUT").retarget (e.withDefaultPort candidatePort) with
    | ok q => exact ⟨q, rfl⟩
    | error f =>
      rw [hq] at hok
      cases hok
  obtain ⟨-, -, -, -, -, -, hresult⟩ := cancellation_stops Provider.roster Script.transport
    Rehearsal.pausing (Rehearsal.request "PUT") ⟨none, ⟨some 50000000⟩⟩ Rehearsal.slowWorld
    rfl rfl (Rehearsal.request_endpoint "PUT") rfl rfl ⟨[], rfl⟩
    (Provider.recording_offersOnly Rehearsal.nodes haddress)
  refine ⟨by decide +kernel, ?_⟩
  have hstatus : Rehearsal.hurried.outcome.toOption.map (·.status) = some 503 := by
    unfold Rehearsal.hurried
    rw [hresult (by decide +kernel)]
    decide +kernel
  cases ho : Rehearsal.hurried.outcome with
  | error f =>
    rw [ho] at hstatus
    cases hstatus
  | ok r =>
    rw [ho] at hstatus
    exact ⟨r, rfl, Option.some.inj hstatus⟩

end Client

end Failover
