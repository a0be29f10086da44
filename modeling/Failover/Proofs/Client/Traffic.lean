import Mathlib.Data.List.Perm.Basic
import Failover.Client.Traffic
import Failover.Proofs.Client.Run
import Failover.Proofs.Response
import Failover.Proofs.Stats
import Failover.Proofs.Url.Idna
/-!
# Accounts of a client

What the counters of a client tell of its requests, in whatever order they come, get ahead and end.

* `Attempt.Fails` : the attempt was not answered by a status that ends the request;
* `Job.Dispatches`, `Job.Settles` : what the two halves of a step can do.  `Job.dispatch_cases`,
  `Job.settle_cases`: what this means for the accounts;
* `Pending.Open` : what is kept in step with the attempts while a request is on its way.
  `Finished.Closed`: what is in step when it has ended;
* `Transport.recorded` : a transport that keeps the requests that it was sent.  `Client.sent`: those
  that it is sent for one request;
* `Traffic.Accounted` : all this for a whole traffic.  `Traffic.move_accounted`,
  `Traffic.run_accounted`: every move keeps it, and so do all of them;
* `Client.traffic_accounted` : what the counters tell;
* `Client.traffic_alone` : a request that meets no other is executed as `Client.execute` does.
-/

set_option autoImplicit false

namespace Failover

variable {σ τ : Type}

/-- The attempt was not answered by a response with a status other than 500, 503 and 504. -/
def Attempt.Fails (a : Attempt) : Prop :=
  match a.outcome with
  | .ok r => r.status = 500 ∨ r.status = 503 ∨ r.status = 504
  | .error _ => True

instance (a : Attempt) : Decidable a.Fails :=
  match h : a.outcome with
  | .ok r => decidable_of_iff (r.isRecoverable = true) (by
      rw [Attempt.Fails, h]
      exact r.isRecoverable_iff)
  | .error _ => .isTrue (by rw [Attempt.Fails, h]; trivial)

theorem Attempt.fails_of_error {a : Attempt} {f : Fault} (h : a.outcome = .error f) : a.Fails := by
  rw [Fails, h]
  trivial

theorem Attempt.fails_iff_of_ok {a : Attempt} {r : Response} (h : a.outcome = .ok r) :
    a.Fails ↔ r.isRecoverable = true := by
  rw [Fails, h]
  exact r.isRecoverable_iff.symm

/-! ## The halves of a step -/

namespace Job

variable {R : Roster σ} {T : Transport τ} {j : Job} {p : Progress σ τ}

/-- What the first half can do: the request ends where it stands, or is sent. -/
inductive Dispatches [DomainNames] (R : Roster σ) (T : Transport τ) (j : Job) (p : Progress σ τ) :
    Dispatch σ τ → Prop where
  | unsupplied {f : Failure} (asked : (j.asked R p).host = .error f) :
    Dispatches R T j p
      (.over ((p.handedOut (j.asked R p)).conclusion f) ((p.handedOut (j.asked R p)).endEarly f))
  | unsendable {f : Failure} (other : f ≠ .noAttempts) :
    Dispatches R T j p (.over (.error f) (p.handedOut (j.asked R p)))
  | sent {e : Endpoint} {request : Request} (sendable : Sendable R j p e request) :
    Dispatches R T j p (.sent (attemptAt R T j p e request) (justSent R T j p e request))

theorem dispatches [DomainNames] (R : Roster σ) (T : Transport τ) (j : Job) (p : Progress σ τ) :
    Dispatches R T j p (j.dispatch R T p) := by
  cases ha : (j.asked R p).host with
  | error f =>
    have ha' : (p.session.next R j.context.cancellation p.now p.roster).host = .error f := ha
    simp only [dispatch, ha']
    exact .unsupplied ha
  | ok e =>
    have ha' : (p.session.next R j.context.cancellation p.now p.roster).host = .ok e := ha
    cases hn : e.host.isEmpty with
    | true =>
      simp only [dispatch, ha', hn]
      exact .unsendable (f := .invariantViolation (.emptyHost j.supplied)) nofun
    | false =>
      cases hp : j.client.prepare j.request e j.context with
      | error f =>
        obtain ⟨cause, rfl⟩ := Client.prepare_error hp
        simp only [dispatch, ha', hn, hp]
        exact .unsendable (f := .invalidRequest cause) nofun
      | ok request =>
        simp only [dispatch, ha', hn, hp, attempt, Progress.release]
        exact .sent ⟨ha, hn, hp⟩

/-- Where a request stands once the candidate of the attempt has been reported as failed. -/
def failedAt (R : Roster σ) (j : Job) (a : Attempt) (p : Progress σ τ) : Progress σ τ :=
  p.countFailure.report R j.client.shortName a.candidate

theorem failedAt_eq (R : Roster σ) (j : Job) (a : Attempt) (p : Progress σ τ) :
    failedAt R j a p = { p.countFailure with
      roster := (R.report a.candidate p.roster).state
      reports := p.reports ++ [a.candidate]
      events := p.events ++ (R.report a.candidate p.roster).events ++
        Progress.refusalEvents j.client.shortName a.candidate
          (R.report a.candidate p.roster).value } :=
  Progress.report_eq R _ _ p.countFailure

/-- What the second half can do, by the answer that the attempt has. -/
inductive Settles (R : Roster σ) (j : Job) (a : Attempt) (p : Progress σ τ) : Turn σ τ → Prop where
  | answered {r : Response} (outcome : a.outcome = .ok r) (fine : r.isRecoverable = false) :
    Settles R j a p (.over (.ok r) p)
  | unwell {r : Response} (outcome : a.outcome = .ok r) (recoverable : r.isRecoverable = true) :
    Settles R j a p (.on { failedAt R j a p with response := some r })
  | broken {f : Fault} (outcome : a.outcome = .error f) :
    Settles R j a p (.over (.error (.transport f))
      (p.countFailure.note (.notRetrying j.client.shortName a.candidate f)))
  | doubtful {f : Fault} (outcome : a.outcome = .error f) :
    Settles R j a p (.over (.error (.transport f)) ((failedAt R j a p).note
      (.stateUnknown j.client.shortName a.candidate j.request.method.name f)))
  | unreached {f : Fault} (outcome : a.outcome = .error f) :
    Settles R j a p (.on { (failedAt R j a p).note
      (.tryingNext j.client.shortName a.candidate f) with fault := some f })

theorem settles (R : Roster σ) (j : Job) (a : Attempt) (p : Progress σ τ) :
    Settles R j a p (j.settle R a p) := by
  unfold settle
  cases ho : a.outcome with
  | ok r =>
    cases hr : r.isRecoverable with
    | true =>
      simp only [Client.verdict, hr, if_true]
      exact .unwell ho hr
    | false =>
      simp only [Client.verdict, hr, Bool.false_eq_true, if_false]
      exact .answered ho hr
  | error f =>
    cases hio : f.isIo with
    | false =>
      simp only [Client.verdict, hio, Bool.not_false, if_true]
      exact .broken ho
    | true =>
      cases hm : j.client.mayRepeat j.request.method f with
      | true =>
        simp only [Client.verdict, hio, hm, Bool.not_true, Bool.false_eq_true, if_false, if_true]
        exact .unreached ho
      | false =>
        simp only [Client.verdict, hio, hm, Bool.not_true, Bool.false_eq_true, if_false]
        exact .doubtful ho

/-- The first half adds nothing to the accounts of a request, or one attempt. -/
theorem dispatch_cases [DomainNames] (R : Roster σ) (T : Transport τ) (j : Job) (p : Progress σ τ) :
    (∃ o q, j.dispatch R T p = .over o q ∧ q.trail = p.trail ∧ q.tally = p.tally ∧
      q.transport = p.transport ∧ ∀ r, o = .ok r → p.response = some r) ∨
    ∃ a q, j.dispatch R T p = .sent a q ∧ q.trail = p.trail ++ [a] ∧ q.tally = p.tally.begin ∧
      q.transport = (T.send a.request p.transport).state ∧
      q.response = p.response.map (·.drain.1) := by
  have h := dispatches R T j p
  generalize j.dispatch R T p = d at h ⊢
  cases h with
  | unsupplied =>
    exact Or.inl ⟨_, _, rfl, rfl, rfl, rfl, fun _ hr => Progress.response_of_conclusion hr⟩
  | unsendable => exact Or.inl ⟨_, _, rfl, rfl, rfl, rfl, fun _ hr => by cases hr⟩
  | sent => exact Or.inr ⟨_, _, rfl, rfl, rfl, rfl, rfl⟩

/-- What follows from an answer: the answer is the result, or the attempt failed and the request ends
    with a fault, or goes on with an answer kept that leaves it open. -/
theorem settle_cases (R : Roster σ) (j : Job) (a : Attempt) (p : Progress σ τ) :
    (∃ r, j.settle R a p = .over (.ok r) p ∧ r.isRecoverable = false ∧ ¬ a.Fails) ∨
    (∃ f q, j.settle R a p = .over (.error f) q ∧ a.Fails ∧ q.trail = p.trail ∧
      q.tally = p.tally.fail ∧ q.transport = p.transport) ∨
    ∃ q, j.settle R a p = .on q ∧ a.Fails ∧ q.trail = p.trail ∧ q.tally = p.tally.fail ∧
      q.transport = p.transport ∧
      (q.response = p.response ∨ ∃ r, q.response = some r ∧ r.isRecoverable = true) := by
  have h := settles R j a p
  generalize j.settle R a p = turn at h ⊢
  cases h with
  | answered outcome fine =>
    refine Or.inl ⟨_, rfl, fine, ?_⟩
    rw [Attempt.fails_iff_of_ok outcome, fine]
    exact Bool.false_ne_true
  | unwell outcome recoverable =>
    have hfails := (Attempt.fails_iff_of_ok outcome).mpr recoverable
    rw [failedAt_eq]
    exact Or.inr (Or.inr ⟨_, rfl, hfails, rfl, rfl, rfl, Or.inr ⟨_, rfl, recoverable⟩⟩)
  | broken outcome =>
    exact Or.inr (Or.inl ⟨_, _, rfl, Attempt.fails_of_error outcome, rfl, rfl, rfl⟩)
  | doubtful outcome =>
    rw [failedAt_eq]
    exact Or.inr (Or.inl ⟨_, _, rfl, Attempt.fails_of_error outcome, rfl, rfl, rfl⟩)
  | unreached outcome =>
    rw [failedAt_eq]
    exact Or.inr (Or.inr ⟨_, rfl, Attempt.fails_of_error outcome, rfl, rfl, rfl, Or.inl rfl⟩)

end Job

/-! ## Single requests -/

/-- The request is one that counts: it does not go over TLS, and aims at an endpoint that is
    supported when it comes. -/
def Request.Counts (R : Roster σ) (arrived : World σ τ) (r : Request) : Prop :=
  r.isSecure = false ∧ ∃ supplied, r.endpoint = .ok supplied ∧
    R.supports arrived.roster supplied = true

instance (R : Roster σ) (arrived : World σ τ) (r : Request) : Decidable (r.Counts R arrived) :=
  match h : r.endpoint with
  | .ok supplied =>
    decidable_of_iff (r.isSecure = false ∧ R.supports arrived.roster supplied = true) (by
      simp [Request.Counts, h])
  | .error _ => .isFalse (by simp [Request.Counts, h])

/-- What holds of a request on its way.  The attempts so far all failed, apart from one from which
    nothing has followed yet, and are counted; an answer that is kept leaves the request open. -/
structure Pending.Open (R : Roster σ) (call : Pending σ τ) : Prop where
  counts : call.job.request.Counts R call.arrived
  attempts : call.progress.tally.attempts = call.progress.trail.length
  failed : ∃ tried, call.progress.trail = tried ++ call.awaiting.toList ∧
    call.progress.tally.failed = tried.length ∧ ∀ a ∈ tried, a.Fails
  kept : ∀ r, call.progress.response = some r → r.isRecoverable = true

namespace Finished

/-- The requests that the transport was sent for it. -/
def sends (f : Finished σ τ) : List Request :=
  if f.request.isSecure then [f.request] else f.run.trail.map (·.request)

/-- Time from its arrival to its end. -/
def elapsed (f : Finished σ τ) : Duration := .between f.arrived.now f.run.world.now

/-- Its attempts in numbers. -/
def tally (f : Finished σ τ) : Tally :=
  ⟨f.run.trail.length, f.run.trail.countP (·.Fails), f.elapsed⟩

/-- Its result is a response with a status other than 500, 503 and 504. -/
def Answered (f : Finished σ τ) : Prop :=
  ∃ r, f.run.outcome = .ok r ∧ ¬ (r.status = 500 ∨ r.status = 503 ∨ r.status = 504)

instance (f : Finished σ τ) : Decidable f.Answered :=
  match h : f.run.outcome with
  | .ok r => decidable_of_iff (¬ (r.status = 500 ∨ r.status = 503 ∨ r.status = 504)) (by
      simp [Answered, h])
  | .error _ => .isFalse (by simp [Answered, h])

/-- What holds of a request that has ended and counts: its attempts are counted, and all of them
    failed but one that gave the result. -/
structure Settled (f : Finished σ τ) : Prop where
  counted : f.run.tally = some f.tally
  attempts : f.run.trail.length =
    f.run.trail.countP (·.Fails) + if f.Answered then 1 else 0

/-- What holds of any request that has ended. -/
structure Closed (R : Roster σ) (f : Finished σ τ) : Prop where
  counted : f.request.Counts R f.arrived → f.Settled
  uncounted : ¬ f.request.Counts R f.arrived → f.run.tally = none ∧ f.run.trail = []

end Finished

section Ends

variable {call : Pending σ τ} {p : Progress σ τ} {stats : Stats}

/-- A request that is on its way and ends here. -/
def Pending.ended (call : Pending σ τ) (stats : Stats) (o : Except Failure Response)
    (p : Progress σ τ) : Finished σ τ :=
  ⟨call.job.request, call.job.context, call.arrived,
    call.job.concluded call.arrived.now stats o p⟩

/-- A request that ends after failed attempts alone, with none of their answers but one that leaves it
    open. -/
theorem settled_of_failed {o : Except Failure Response}
    (hattempts : p.tally.attempts = p.trail.length) (hfailed : p.tally.failed = p.trail.length)
    (hall : ∀ a ∈ p.trail, a.Fails) (ho : ∀ r, o = .ok r → r.isRecoverable = true) :
    (call.ended stats o p).Settled := by
  have hcount : p.trail.countP (·.Fails) = p.trail.length :=
    List.countP_eq_length.mpr fun a ha => decide_eq_true (hall a ha)
  have hopen : ¬ (call.ended stats o p).Answered := by
    rintro ⟨r, hr, hfine⟩
    exact hfine (r.isRecoverable_iff.mp (ho r hr))
  refine ⟨?_, ?_⟩
  · show some (⟨p.tally.attempts, p.tally.failed, _⟩ : Tally) =
      some ⟨p.trail.length, p.trail.countP (·.Fails), _⟩
    rw [hattempts, hfailed, hcount]
    rfl
  · rw [if_neg hopen]
    exact hcount.symm

/-- A request that ends with the answer to its last attempt. -/
theorem settled_of_answered {r : Response} {tried : List Attempt} {a : Attempt}
    (htrail : p.trail = tried ++ [a]) (hattempts : p.tally.attempts = p.trail.length)
    (hfailed : p.tally.failed = tried.length) (hall : ∀ a ∈ tried, a.Fails)
    (hfine : r.isRecoverable = false) (hlast : ¬ a.Fails) :
    (call.ended stats (.ok r) p).Settled := by
  have hcount : p.trail.countP (·.Fails) = tried.length := by
    rw [htrail, List.countP_append, List.countP_singleton,
      List.countP_eq_length.mpr fun b hb => decide_eq_true (hall b hb)]
    simp [hlast]
  have hanswered : (call.ended stats (.ok r) p).Answered :=
    ⟨r, rfl, fun h => by rw [r.isRecoverable_iff.mpr h] at hfine; cases hfine⟩
  refine ⟨?_, ?_⟩
  · show some (⟨p.tally.attempts, p.tally.failed, _⟩ : Tally) =
      some ⟨p.trail.length, p.trail.countP (·.Fails), _⟩
    rw [hattempts, hfailed, hcount]
    rfl
  · rw [if_pos hanswered]
    show p.trail.length = p.trail.countP (·.Fails) + 1
    rw [hcount, htrail, List.length_append]
    rfl

end Ends

/-! ## All requests of a client -/

/-- The transport with all requests that it was sent. -/
def Transport.recorded (T : Transport τ) : Transport (τ × List Request) :=
  ⟨fun r t =>
    let d := T.send r t.1
    ⟨d.outcome, d.elapsed, (d.state, t.2 ++ [r])⟩⟩

/-- All that the transport is sent for a request. -/
def Client.sent [DomainNames] (R : Roster σ) (T : Transport τ) (c : Client) (r : Request)
    (context : Context) (w : World σ τ) : List Request :=
  (c.execute R T.recorded r context ⟨w.roster, (w.transport, []), w.now, w.stats⟩).world.transport.2

/-- The place of an item in a list: what is left when it is taken out, and what it can be replaced
    by. -/
theorem split_place {α : Type} {x : α} : ∀ {l : List α} {i : Nat}, l[i]? = some x →
    ∃ pre post, l = pre ++ x :: post ∧ l.eraseIdx i = pre ++ post ∧
      ∀ y, l.set i y = pre ++ y :: post
  | [], i, h => by simp at h
  | y :: ys, 0, h => by
    obtain rfl : y = x := by simpa using h
    exact ⟨[], ys, rfl, rfl, fun _ => rfl⟩
  | y :: ys, i + 1, h => by
    obtain ⟨pre, post, rfl, herase, hset⟩ := split_place (l := ys) (i := i) (by simpa using h)
    refine ⟨y :: pre, post, rfl, ?_, fun z => ?_⟩
    · simp [herase]
    · simp [hset z]

namespace Traffic

/-- The requests that the transport was sent for one that is on its way. -/
def sendsOf (call : Pending σ τ) : List Request := call.progress.trail.map (·.request)

/-- What holds of the requests of a client that started with nothing counted. -/
structure Accounted (R : Roster σ) (T : Transport τ) (t : Traffic σ (τ × List Request)) :
    Prop where
  pending : ∀ call ∈ t.pending, call.Open R
  finished : ∀ f ∈ t.finished, f.Closed R
  stats : t.world.stats.Sums (t.finished.filterMap (·.run.tally))
  sent : t.world.transport.2.Perm (t.finished.flatMap (·.sends) ++ t.pending.flatMap sendsOf)
  direct : ∀ f ∈ t.finished, f.request.isSecure = true →
    f.run = Client.sendDirectly T.recorded f.request f.arrived

variable {R : Roster σ} {T : Transport τ} {t : Traffic σ (τ × List Request)} {i : Nat}
  {call : Pending σ (τ × List Request)} {p : Progress σ (τ × List Request)}

/-- A request that ends keeps the accounts, if its own are right. -/
theorem Accounted.finish (h : t.Accounted R T) (hi : t.pending[i]? = some call)
    {o : Except Failure Response} (htrail : p.trail = call.progress.trail)
    (htransport : p.transport = t.world.transport)
    (hsettled : (call.ended t.world.stats o p).Settled) : (t.finish i call o p).Accounted R T := by
  obtain ⟨pre, post, hl, herase, -⟩ := split_place hi
  have hopen : call.Open R := h.pending call (by rw [hl]; simp)
  have hplain : call.job.request.isSecure = false := hopen.counts.1
  refine ⟨?_, ?_, ?_, ?_, ?_⟩
  · intro other hother
    change other ∈ t.pending.eraseIdx i at hother
    exact h.pending other (List.mem_of_mem_eraseIdx hother)
  · intro f hf
    rcases List.mem_append.mp hf with hf | hf
    · exact h.finished f hf
    · rw [List.mem_singleton.mp hf]
      exact ⟨fun _ => hsettled, fun hnot => absurd hopen.counts hnot⟩
  · show (t.world.stats.record _).Sums
      ((t.finished ++ [call.ended t.world.stats o p]).filterMap (·.run.tally))
    rw [List.filterMap_append]
    exact h.stats.record _
  · have hsends : (call.ended t.world.stats o p).sends = sendsOf call := by
      show (if call.job.request.isSecure then _ else p.trail.map (·.request)) = _
      rw [hplain, htrail]
      rfl
    show p.transport.2.Perm ((t.finished ++ [call.ended t.world.stats o p]).flatMap (·.sends) ++
      (t.pending.eraseIdx i).flatMap sendsOf)
    rw [htransport, herase, List.flatMap_append, List.flatMap_append, List.flatMap_singleton,
      hsends, List.append_assoc]
    have hsent := h.sent
    rw [hl, List.flatMap_append, List.flatMap_cons] at hsent
    refine hsent.trans (List.Perm.append_left _ ?_)
    exact List.perm_append_comm_assoc ..
  · intro f hf hs
    rcases List.mem_append.mp hf with hf | hf
    · exact h.direct f hf hs
    · rw [List.mem_singleton.mp hf] at hs
      exact absurd hs (by
        show ¬ call.job.request.isSecure = true
        rw [hplain]
        exact Bool.false_ne_true)

/-- A request that goes on keeps the accounts, if its own are right and what it sent is recorded. -/
theorem Accounted.resume (h : t.Accounted R T) (hi : t.pending[i]? = some call)
    {awaiting : Option Attempt} (more : List Attempt)
    (hopen : Pending.Open R { call with awaiting := awaiting, progress := p })
    (htrail : p.trail = call.progress.trail ++ more)
    (htransport : p.transport.2 = t.world.transport.2 ++ more.map (·.request)) :
    (t.resume i call awaiting p).Accounted R T := by
  obtain ⟨pre, post, hl, -, hset⟩ := split_place hi
  refine ⟨?_, h.finished, h.stats, ?_, h.direct⟩
  · intro other hother
    change other ∈ t.pending.set i _ at hother
    rcases List.mem_or_eq_of_mem_set hother with hother | rfl
    · exact h.pending other hother
    · exact hopen
  · show p.transport.2.Perm (t.finished.flatMap (·.sends) ++ (t.pending.set i _).flatMap sendsOf)
    have hsent := h.sent
    have hsends : sendsOf { call with awaiting := awaiting, progress := p } =
        sendsOf call ++ more.map (·.request) := by
      show p.trail.map (·.request) = _
      rw [htrail, List.map_append]
      rfl
    rw [hl, List.flatMap_append, List.flatMap_cons] at hsent
    rw [htransport, hset, List.flatMap_append, List.flatMap_cons, hsends]
    refine (hsent.append_right _).trans ?_
    simp only [List.append_assoc]
    exact ((List.perm_append_comm.append_left _).append_left _).append_left _

/-- A request that comes is sent as it is, or refused, or counts and joins those on their way. -/
theorem call_cases [DomainNames] (R : Roster σ) (T : Transport τ) (c : Client) (r : Request)
    (context : Context) (t : Traffic σ τ) :
    (r.isSecure = true ∧ t.call R T c r context =
      ⟨(Client.sendDirectly T r t.world).world, t.pending,
        t.finished ++ [⟨r, context, t.world, Client.sendDirectly T r t.world⟩]⟩) ∨
    (r.isSecure = false ∧ ¬ r.Counts R t.world ∧ ∃ f,
      c.execute R T r context t.world = .refused f t.world ∧ t.call R T c r context =
        ⟨t.world, t.pending, t.finished ++ [⟨r, context, t.world, .refused f t.world⟩]⟩) ∨
    ∃ supplied, r.endpoint = .ok supplied ∧ r.Counts R t.world ∧
      let j := c.job r supplied context
      t.call R T c r context =
        { t with
          world := t.world.after (j.begin R t.world)
          pending := t.pending ++ [⟨j, t.world, none, j.begin R t.world⟩] } := by
  unfold call
  cases hs : r.isSecure with
  | true =>
    refine Or.inl ⟨rfl, ?_⟩
    simp only [if_true, Client.execute, hs]
  | false =>
    refine Or.inr ?_
    cases he : r.endpoint with
    | error f =>
      have hrun : c.execute R T r context t.world = .refused f t.world := by
        simp only [Client.execute, hs, he]
        rfl
      refine Or.inl ⟨rfl, ?_, f, hrun, ?_⟩
      · rintro ⟨-, supplied, hok, -⟩
        cases he.symm.trans hok
      · simp only [Bool.false_eq_true, if_false, hrun]
        rfl
    | ok supplied =>
      cases hsup : R.supports t.world.roster supplied with
      | true =>
        refine Or.inr ⟨supplied, rfl, ⟨hs, supplied, he, hsup⟩, ?_⟩
        simp only [Bool.false_eq_true, if_false, if_true, hsup]
        rfl
      | false =>
        have hrun : c.execute R T r context t.world =
            .refused (.unknownEndpoint supplied) t.world := by
          simp only [Client.execute, hs, he, hsup]
          rfl
        refine Or.inl ⟨rfl, ?_, _, hrun, ?_⟩
        · rintro ⟨-, supplied', hok, hsup'⟩
          cases he.symm.trans hok
          cases hsup.symm.trans hsup'
        · simp only [Bool.false_eq_true, if_false, hsup, hrun]
          rfl

/-- A request that comes keeps the accounts. -/
theorem Accounted.called [DomainNames] (h : t.Accounted R T) (c : Client) (r : Request)
    (context : Context) : (t.call R T.recorded c r context).Accounted R T := by
  have hold : ∀ {f g : Finished σ (τ × List Request)}, f ∈ t.finished ++ [g] →
      f ∈ t.finished ∨ f = g := by
    intro f g hf
    exact (List.mem_append.mp hf).imp id List.mem_singleton.mp
  obtain ⟨hs, hcall⟩ | ⟨hs, hnot, f, -, hcall⟩ | ⟨supplied, -, hcounts, hcall⟩ :=
    call_cases R T.recorded c r context t
  · rw [hcall]
    have hnot : ¬ r.Counts R t.world := fun hc => by rw [hc.1] at hs; cases hs
    refine ⟨h.pending, ?_, ?_, ?_, ?_⟩
    · intro g hg
      rcases hold hg with hg | rfl
      · exact h.finished g hg
      · exact ⟨fun hc => absurd hc hnot, fun _ => ⟨rfl, rfl⟩⟩
    · rw [List.filterMap_append]
      simpa [Client.sendDirectly] using h.stats
    · have hsends : (⟨r, context, t.world, Client.sendDirectly T.recorded r t.world⟩ :
          Finished σ (τ × List Request)).sends = [r] := if_pos hs
      show (t.world.transport.2 ++ [r]).Perm _
      rw [List.flatMap_append, List.flatMap_singleton, hsends]
      refine (h.sent.append_right _).trans ?_
      simp only [List.append_assoc]
      exact List.perm_append_comm.append_left _
    · intro g hg hsec
      rcases hold hg with hg | rfl
      · exact h.direct g hg hsec
      · rfl
  · rw [hcall]
    refine ⟨h.pending, ?_, ?_, ?_, ?_⟩
    · intro g hg
      rcases hold hg with hg | rfl
      · exact h.finished g hg
      · exact ⟨fun hc => absurd hc hnot, fun _ => ⟨rfl, rfl⟩⟩
    · rw [List.filterMap_append]
      simpa [Execution.refused] using h.stats
    · have hsends : (⟨r, context, t.world, .refused f t.world⟩ :
          Finished σ (τ × List Request)).sends = [] := by
        simp [Finished.sends, hs, Execution.refused]
      rw [List.flatMap_append, List.flatMap_singleton, hsends, List.append_nil]
      exact h.sent
    · intro g hg hsec
      rcases hold hg with hg | rfl
      · exact h.direct g hg hsec
      · cases hs.symm.trans hsec
  · rw [hcall]
    refine ⟨?_, h.finished, h.stats, ?_, h.direct⟩
    · intro other hother
      rcases List.mem_append.mp hother with hother | hother
      · exact h.pending other hother
      · rw [List.mem_singleton.mp hother]
        exact ⟨hcounts, rfl, ⟨[], rfl, rfl, by simp⟩, fun _ hr => by cases hr⟩
    · show t.world.transport.2.Perm _
      rw [List.flatMap_append, List.flatMap_singleton]
      simpa [sendsOf, Job.begin] using h.sent

/-- What follows from an answer keeps the accounts. -/
theorem Accounted.settle (h : t.Accounted R T) (hi : t.pending[i]? = some call) {a : Attempt}
    (hawaiting : call.awaiting = some a) :
    Accounted R T (t.settled i call (call.job.settle R a (call.progress.within t.world))) := by
  have hopen : call.Open R := h.pending call (List.mem_of_getElem? hi)
  obtain ⟨tried, htried, hfailed, hall⟩ := hopen.failed
  rw [hawaiting] at htried
  change call.progress.trail = tried ++ [a] at htried
  have hlength : call.progress.trail.length = tried.length + 1 := by
    rw [htried, List.length_append]
    rfl
  have hall' : a.Fails → ∀ b ∈ call.progress.trail, b.Fails := by
    intro ha b hb
    rw [htried] at hb
    rcases List.mem_append.mp hb with hb | hb
    · exact hall b hb
    · rw [List.mem_singleton.mp hb]
      exact ha
  obtain ⟨r, hs, hfine, ha⟩ | ⟨f, q, hs, ha, htrail, htally, htransport⟩ |
    ⟨q, hs, ha, htrail, htally, htransport, hresponse⟩ :=
    Job.settle_cases R call.job a (call.progress.within t.world)
  · rw [hs]
    exact h.finish hi rfl rfl (settled_of_answered htried hopen.attempts hfailed hall hfine ha)
  · rw [hs]
    refine h.finish hi htrail htransport (settled_of_failed ?_ ?_ ?_ fun r hr => by cases hr)
    · rw [htally, htrail]
      exact hopen.attempts
    · rw [htally, htrail]
      show call.progress.tally.failed + 1 = call.progress.trail.length
      rw [hfailed, hlength]
    · rw [htrail]
      exact hall' ha
  · rw [hs]
    have htrail' : q.trail = call.progress.trail ++ [] := htrail.trans (List.append_nil _).symm
    refine h.resume hi [] ⟨hopen.counts, ?_, ⟨_, htrail', ?_, hall' ha⟩, ?_⟩ htrail' ?_
    · show q.tally.attempts = q.trail.length
      rw [htally, htrail]
      exact hopen.attempts
    · show q.tally.failed = call.progress.trail.length
      rw [htally, hlength, ← hfailed]
      rfl
    · intro r hr
      change q.response = some r at hr
      rcases hresponse with hsame | ⟨r', hr', hrec⟩
      · exact hopen.kept r (hsame.symm.trans hr)
      · cases hr'.symm.trans hr
        exact hrec
    · rw [htransport]
      exact (List.append_nil _).symm

/-- Sending to the next candidate, or ending for want of one, keeps the accounts. -/
theorem Accounted.dispatch [DomainNames] (h : t.Accounted R T) (hi : t.pending[i]? = some call)
    (hawaiting : call.awaiting = none) :
    Accounted R T (t.dispatched i call
      (call.job.dispatch R T.recorded (call.progress.within t.world))) ∧
      Accounted R T (t.finish i call ((call.progress.within t.world).conclusion .noAttempts)
        (call.progress.within t.world)) := by
  have hopen : call.Open R := h.pending call (List.mem_of_getElem? hi)
  obtain ⟨tried, htried, hfailed, hall⟩ := hopen.failed
  rw [hawaiting] at htried
  obtain rfl : call.progress.trail = tried := htried.trans (List.append_nil _)
  refine ⟨?_, ?_⟩
  · obtain ⟨o, q, hs, htrail, htally, htransport, ho⟩ | ⟨a, q, hs, htrail, htally, htransport,
      hresponse⟩ := Job.dispatch_cases R T.recorded call.job (call.progress.within t.world)
    · rw [hs]
      refine h.finish hi htrail htransport
        (settled_of_failed ?_ ?_ ?_ fun r hr => hopen.kept r (ho r hr))
      · rw [htally, htrail]
        exact hopen.attempts
      · rw [htally, htrail]
        exact hfailed
      · rw [htrail]
        exact hall
    · rw [hs]
      refine h.resume hi [a] ⟨hopen.counts, ?_, ⟨_, htrail, ?_, hall⟩, ?_⟩ htrail ?_
      · show q.tally.attempts = q.trail.length
        rw [htally, htrail, List.length_append]
        exact congrArg (· + 1) hopen.attempts
      · show q.tally.failed = call.progress.trail.length
        rw [htally]
        exact hfailed
      · intro r hr
        change q.response = some r at hr
        rw [hresponse] at hr
        obtain ⟨before, hbefore, rfl⟩ := Option.map_eq_some_iff.mp hr
        rw [Response.isRecoverable_drain]
        exact hopen.kept before hbefore
      · rw [htransport]
        rfl
  · refine h.finish hi rfl rfl (settled_of_failed hopen.attempts hfailed hall ?_)
    exact fun r hr => hopen.kept r (Progress.response_of_conclusion hr)

/-- **Every move keeps the accounts.** -/
theorem move_accounted [DomainNames] (h : t.Accounted R T) (c : Client) (m : Move) :
    (t.move R T.recorded c m).Accounted R T := by
  cases m with
  | call r context => exact h.called c r context
  | clock now => exact ⟨h.pending, h.finished, h.stats, h.sent, h.direct⟩
  | proceed i =>
    show (t.proceed R T.recorded i).Accounted R T
    unfold Traffic.proceed
    cases hi : t.pending[i]? with
    | none => exact h
    | some call =>
      cases hawaiting : call.awaiting with
      | some a =>
        simp only [hawaiting]
        exact h.settle hi hawaiting
      | none =>
        obtain ⟨hsent, hspent⟩ := h.dispatch hi hawaiting
        simp only [hawaiting]
        split
        · exact hsent
        · exact hspent

/-- **So do all of them, one after another.** -/
theorem run_accounted [DomainNames] (c : Client) :
    ∀ (ms : List Move) {t : Traffic σ (τ × List Request)},
    t.Accounted R T → (t.run R T.recorded c ms).Accounted R T
  | [], _, h => h
  | m :: ms, _, h => run_accounted c ms (move_accounted h c m)

/-- At the beginning there is nothing to account for. -/
theorem fresh_accounted (R : Roster σ) (T : Transport τ) (roster : σ) (transport : τ) (now : Nat) :
    (fresh roster (transport, []) now).Accounted R T where
  pending := by simp [fresh]
  finished := by simp [fresh]
  stats := Stats.sums_zero
  sent := List.Perm.refl _
  direct := by simp [fresh]

end Traffic

/-! ## What the counters tell -/

/-- The requests that count are those with tallies. -/
theorem Finished.filterMap_tally {R : Roster σ} : ∀ {fs : List (Finished σ τ)},
    (∀ f ∈ fs, f.Closed R) →
      fs.filterMap (·.run.tally) = (fs.filter fun f => f.request.Counts R f.arrived).map (·.tally)
  | [], _ => rfl
  | f :: fs, h => by
    have hf := h f List.mem_cons_self
    have ih := filterMap_tally fun g hg => h g (List.mem_cons_of_mem f hg)
    by_cases hc : f.request.Counts R f.arrived
    · simp only [List.filterMap_cons, (hf.counted hc).counted, List.filter_cons, hc, decide_true,
        if_true, List.map_cons, ih]
    · simp only [List.filterMap_cons, (hf.uncounted hc).1, List.filter_cons, hc, decide_false,
        Bool.false_eq_true, if_false, ih]

theorem Finished.length_sends {f : Finished σ τ} (h : f.request.isSecure = false) :
    f.sends.length = f.run.trail.length := by
  simp [sends, h]

/-! ## A request on its own -/

namespace Traffic

/-- The one request that came to `t` stands at `p`. -/
def alone (t : Traffic σ τ) (j : Job) (awaiting : Option Attempt) (p : Progress σ τ) :
    Traffic σ τ :=
  ⟨t.world.after p, [⟨j, t.world, awaiting, p⟩], t.finished⟩

/-- The one request that came to `t` has ended at `p`. -/
def ended (t : Traffic σ τ) (j : Job) (x : Except Failure Response × Progress σ τ) : Traffic σ τ :=
  let run := j.concluded t.world.now t.world.stats x.1 x.2
  ⟨run.world, [], t.finished ++ [⟨j.request, j.context, t.world, run⟩]⟩

/-- It sends if its session may continue, and has ended if not. -/
theorem proceed_alone [DomainNames] (R : Roster σ) (T : Transport τ) (t : Traffic σ τ) (j : Job)
    (p : Progress σ τ) :
    (t.alone j none p).proceed R T 0 =
      if p.session.mayContinue j.context.cancellation p.now then
        match j.dispatch R T p with
        | .over outcome q => t.ended j (outcome, q)
        | .sent a q => t.alone j (some a) q
      else t.ended j (p.conclusion .noAttempts, p) := by
  show (if p.session.mayContinue j.context.cancellation p.now then
    (t.alone j none p).dispatched 0 ⟨j, t.world, none, p⟩ (j.dispatch R T p) else _) = _
  split
  · cases j.dispatch R T p <;> rfl
  · rfl

/-- It deals with an answer as in the second half of a step. -/
theorem proceed_answered [DomainNames] (R : Roster σ) (T : Transport τ) (t : Traffic σ τ) (j : Job)
    (a : Attempt) (p : Progress σ τ) :
    (t.alone j (some a) p).proceed R T 0 =
      match j.settle R a p with
      | .over outcome q => t.ended j (outcome, q)
      | .on q => t.alone j none q := by
  show (t.alone j (some a) p).settled 0 ⟨j, t.world, some a, p⟩ (j.settle R a p) = _
  cases j.settle R a p <;> rfl

/-- A request that meets no other ends as it does in a run of its own. -/
theorem alone_ended [DomainNames] (R : Roster σ) (T : Transport τ) (c : Client) (t : Traffic σ τ)
    (j : Job) :
    ∀ (n : Nat) {p : Progress σ τ}, p.session.Consistent → p.session.bound ≤ n →
      ∃ k, (t.alone j none p).run R T c (.replicate k (.proceed 0)) = t.ended j (j.loop R T n p)
  | 0, p, _, hn => by
    have hspent := Session.mayContinue_of_bound_eq_zero (Nat.le_zero.mp hn) j.context.cancellation
      p.now
    refine ⟨1, ?_⟩
    show (t.alone j none p).proceed R T 0 = _
    rw [proceed_alone, hspent]
    rfl
  | n + 1, p, hp, hn => by
    cases hmay : p.session.mayContinue j.context.cancellation p.now with
    | false =>
      refine ⟨1, ?_⟩
      show (t.alone j none p).proceed R T 0 = _
      rw [proceed_alone, Job.loop, hmay]
      rfl
    | true =>
      rcases hdispatch : j.dispatch R T p with ⟨o, q⟩ | ⟨a, q⟩
      · have hstep : j.step R T p = .over o q := by rw [Job.step_eq_dispatch, hdispatch]
        refine ⟨1, ?_⟩
        show (t.alone j none p).proceed R T 0 = _
        rw [proceed_alone, Job.loop, hmay, hdispatch, hstep]
        rfl
      · have hstep : j.step R T p = j.settle R a q := by rw [Job.step_eq_dispatch, hdispatch]
        have hsent : (t.alone j none p).proceed R T 0 = t.alone j (some a) q := by
          rw [proceed_alone, hmay, hdispatch]
          rfl
        rcases hsettle : j.settle R a q with ⟨o, q'⟩ | q'
        · refine ⟨2, ?_⟩
          show ((t.alone j none p).proceed R T 0).proceed R T 0 = _
          rw [hsent, proceed_answered, hsettle, Job.loop, hmay, hstep, hsettle]
          rfl
        · -- The attempt failed and left the request open, which goes on from there.
          obtain ⟨e, request, hr⟩ := Job.GoesOn.retried ⟨hmay, hstep.trans hsettle⟩
          have hbound : p.session.bound = q'.session.bound + 1 := by
            rw [hr.session]
            exact Session.bound_next R hr.asked
          obtain ⟨k, hk⟩ := alone_ended R T c t j n (hr.consistent hp) (by omega)
          refine ⟨k + 2, ?_⟩
          show (((t.alone j none p).proceed R T 0).proceed R T 0).run R T c
            (.replicate k (.proceed 0)) = _
          rw [hsent, proceed_answered, hsettle, Job.loop, hmay, hstep, hsettle]
          exact hk

end Traffic

namespace Client

/-- A request that is sent as it is has the result of that send. -/
theorem sendDirectly_outcome (T : Transport τ) (r : Request) (w : World σ τ) :
    (sendDirectly T r w).outcome = (T.send r w.transport).outcome.mapError .transport := by
  unfold sendDirectly
  cases h : (T.send r w.transport).outcome <;> simp [h, Except.mapError]

/-- **What the counters tell.**  A client starts with nothing counted, and requests come, get ahead and
    end in any order.  The counters then tell, as far as 64 bits hold it, how many of those that
    ended did not go over TLS and aimed at an endpoint that was supported, how often these were
    sent, how many of the attempts failed, how many requests were sent not at all, once, twice, three
    times and more often, and how many microseconds they took.  Whatever the transport was sent, it
    was sent for one of the requests.  Each request that counts has one attempt that did not fail
    if its result is an answer that no other endpoint could better, and none otherwise.  A request
    over TLS is sent once as it is, and neither the providers nor the counters nor the other
    requests notice. -/
theorem traffic_accounted [DomainNames] (R : Roster σ) (T : Transport τ) (c : Client) (roster : σ)
    (transport : τ) (now : Nat) (moves : List Move) :
    let t := (Traffic.fresh roster (transport, []) now).run R T.recorded c moves
    let counted := t.finished.filter fun f => f.request.Counts R f.arrived
    let stats := t.world.stats
    (stats.requests.toNat = counted.length % UInt64.size ∧
      stats.attempts.toNat = summed (·.sends.length) counted % UInt64.size ∧
      stats.failedAttempts.toNat =
        summed (fun f => f.run.trail.countP (·.Fails)) counted % UInt64.size ∧
      (∀ i < 4, (stats.histogram[i]?).map (·.toNat) =
        some (counted.countP (fun f => f.sends.length = i) % UInt64.size)) ∧
      (stats.histogram[4]?).map (·.toNat) =
        some (counted.countP (fun f => 4 ≤ f.sends.length) % UInt64.size) ∧
      stats.histogram.length = 5 ∧ stats.histogram.foldr (· + ·) 0 = stats.requests ∧
      stats.requestTime.nanos =
        summed (fun f => min f.elapsed.micros Stats.maxMicros) counted % UInt64.size * 1000) ∧
    t.world.transport.2.Perm (t.finished.flatMap (·.sends) ++ t.pending.flatMap Traffic.sendsOf) ∧
    (∀ f ∈ counted, f.sends = f.run.trail.map (·.request) ∧ f.sends.length =
      f.run.trail.countP (·.Fails) + if f.Answered then 1 else 0) ∧
    (∀ f ∈ t.finished, f.request.isSecure = true →
      f.run.outcome = (T.send f.request f.arrived.transport.1).outcome.mapError .transport ∧
        f.run.world.transport.2 = f.arrived.transport.2 ++ [f.request] ∧
        f.run.reports = [] ∧ f.run.events = []) ∧
    ∀ r context, r.isSecure = true →
      let after := t.call R T.recorded c r context
      after.world.transport.2 = t.world.transport.2 ++ [r] ∧ after.world.roster = t.world.roster ∧
        after.world.stats = t.world.stats ∧ after.pending = t.pending := by
  intro t counted stats
  have h : t.Accounted R T := Traffic.run_accounted c moves (Traffic.fresh_accounted R T _ _ now)
  have hplain : ∀ f ∈ counted, f.request.isSecure = false := by
    intro f hf
    exact (of_decide_eq_true (List.mem_filter.mp hf).2).1
  have hsums : stats.Sums (counted.map (·.tally)) := by
    rw [← Finished.filterMap_tally h.finished]
    exact h.stats
  have hsends : ∀ {f}, f ∈ counted → f.tally.attempts = f.sends.length := by
    intro f hf
    exact (Finished.length_sends (hplain f hf)).symm
  have hbucket : ∀ {f}, f ∈ counted → f.tally.bucket = min f.sends.length 4 := by
    intro f hf
    rw [Tally.bucket, hsends hf]
  refine ⟨⟨?_, ?_, ?_, ?_, ?_, ?_, ?_, ?_⟩, h.sent, ?_, ?_, ?_⟩
  · rw [hsums.requests, List.length_map]
  · rw [hsums.attempts, summed_map]
    exact congrArg (· % UInt64.size) (summed_congr _ hsends)
  · rw [hsums.failed, summed_map]
    rfl
  · intro i hi
    rw [hsums.histogram i (by omega), List.countP_map]
    congr 2
    apply List.countP_congr
    intro f hf
    simp only [Function.comp_apply, hbucket hf, decide_eq_true_eq]
    omega
  · rw [hsums.histogram 4 (by omega), List.countP_map]
    congr 2
    apply List.countP_congr
    intro f hf
    simp only [Function.comp_apply, hbucket hf, decide_eq_true_eq]
    omega
  · exact hsums.classes
  · exact hsums.total
  · rw [hsums.requestTime, summed_map]
    rfl
  · intro f hf
    have hclosed := h.finished f (List.mem_filter.mp hf).1
    have hsettled := hclosed.counted (of_decide_eq_true (List.mem_filter.mp hf).2)
    refine ⟨by simp [Finished.sends, hplain f hf], ?_⟩
    rw [Finished.length_sends (hplain f hf)]
    exact hsettled.attempts
  · intro f hf hs
    rw [h.direct f hf hs]
    exact ⟨sendDirectly_outcome T.recorded f.request f.arrived, rfl, rfl, rfl⟩
  · intro r context hs after
    obtain ⟨-, hcall⟩ | ⟨hnot, -⟩ | ⟨-, -, hcounts, -⟩ :=
      Traffic.call_cases R T.recorded c r context t
    · change after = _ at hcall
      rw [hcall]
      exact ⟨rfl, rfl, rfl, rfl⟩
    · cases hs.symm.trans hnot
    · cases hs.symm.trans hcounts.1

/-- **A request that meets no other is executed from beginning to end.**  If no others are on their way
    and it gets ahead until it has ended, all is as `Client.execute` has it. -/
theorem traffic_alone [DomainNames] (R : Roster σ) (T : Transport τ) (c : Client) (r : Request)
    (context : Context) {t : Traffic σ τ} (hidle : t.pending = []) :
    let run := c.execute R T r context t.world
    ∃ k, t.run R T c (.call r context :: .replicate k (.proceed 0)) =
      ⟨run.world, [], t.finished ++ [⟨r, context, t.world, run⟩]⟩ := by
  intro run
  obtain ⟨hs, hcall⟩ | ⟨-, -, f, hrefused, hcall⟩ | ⟨supplied, hend, hcounts, hcall⟩ :=
    Traffic.call_cases R T c r context t
  · have hrun : run = sendDirectly T r t.world := by
      show c.execute R T r context t.world = _
      simp only [execute, hs, if_true]
    refine ⟨0, ?_⟩
    show t.call R T c r context = _
    rw [hcall, hidle, hrun]
  · have hrun : run = .refused f t.world := hrefused
    refine ⟨0, ?_⟩
    show t.call R T c r context = _
    rw [hcall, hidle, hrun]
    rfl
  · have hsup : R.supports t.world.roster supplied = true := by
      obtain ⟨-, other, hother, hsup⟩ := hcounts
      cases hend.symm.trans hother
      exact hsup
    have hrun : run = failOver R T (c.job r supplied context) t.world :=
      execute_eq_failOver T c context hcounts.1 hend hsup
    obtain ⟨k, hk⟩ := Traffic.alone_ended R T c t (c.job r supplied context) _
      (Job.begin_consistent R (c.job r supplied context) t.world) (Nat.le_refl _)
    refine ⟨k, ?_⟩
    show (t.call R T c r context).run R T c (.replicate k (.proceed 0)) = _
    rw [hcall, hidle, hrun]
    exact hk

/-- Two rehearsals beside each other: the second to come ends first, with its second attempt in
    doubt, and the first one with its third attempt. -/
example :
    let w := Rehearsal.world
    let t := (Traffic.fresh w.roster (w.transport, []) 0).run Provider.roster
      Script.transport.recorded Rehearsal.client
      [.call (Rehearsal.request "PUT") .empty, .call (Rehearsal.request "POST") .empty, .proceed 0,
        .proceed 1, .proceed 1, .proceed 0, .proceed 1, .proceed 1, .proceed 0, .proceed 0,
        .proceed 0, .proceed 0]
    t.finished.map (·.request.method.name) = ["POST", "PUT"] ∧
      t.world.stats = ⟨2, 5, 4, 0, [0, 0, 1, 1, 0]⟩ := by
  decide +kernel

end Client

end Failover
