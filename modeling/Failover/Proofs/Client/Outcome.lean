import Failover.Proofs.Client.Run
import Failover.Proofs.Response
import Failover.Proofs.Session.Course
import Failover.Proofs.Url.Idna
/-!
# What becomes of a request

The result of a request and the attempts of it, from the hosts that its session hands out and the
answers that its transport gives, with no mention of the loop that makes the attempts.

* `Fate` : what becomes of one host;
* `Job.fates` : what becomes of hosts one after another;
* `Job.endsWith` : the result with which a fate ends the request, if it does.
  `Job.LeavesOpen.endsWith`, `Job.Closed.endsWith`: a step closes a request exactly then;
* `Fate.conclusion` : the result if no fate ended the request;
* `Job.sends` : how many of the hosts the request is sent to;
* `Client.execute_outcome` : all this is what a client does.
-/

set_option autoImplicit false

namespace Failover

variable {σ τ : Type}

/-- What becomes of a host that is handed out for a request: it has no name, or the request cannot be aimed
    at it, or the request is sent to it. -/
inductive Fate where
  | nameless
  | unprepared (f : Failure)
  | sent (request : Request) (outcome : Except Fault Response)

/-- What became of the candidate of an attempt. -/
def Attempt.fate (a : Attempt) : Fate := .sent a.request a.outcome

namespace Fate

/-- Whether the request was sent. -/
def isSent : Fate → Bool
  | sent _ _ => true
  | _ => false

/-- The answer, if one came. -/
def answer? : Fate → Option Response
  | sent _ (.ok r) => some r
  | _ => none

/-- The fault, if the request was sent and no answer came. -/
def fault? : Fate → Option Fault
  | sent _ (.error f) => some f
  | _ => none

/-- The most recent answer.  Unless the last attempt gave it, it was let go of since. -/
def lastAnswer (fates : List Fate) : Option Response :=
  (fates.filterMap answer?).getLast?.map fun r =>
    if (fates.getLast?.bind answer?).isSome then r else r.drain.1

/-- The most recent fault. -/
def lastFault (fates : List Fate) : Option Fault := (fates.filterMap fault?).getLast?

/-- The result if no fate ended the request: the most recent answer, or else the most recent fault,
    or else that there were no attempts. -/
def conclusion (fates : List Fate) : Except Failure Response :=
  match lastAnswer fates, lastFault fates with
  | some r, _ => .ok r
  | none, some f => .error (.transport f)
  | none, none => .error .noAttempts

theorem lastAnswer_concat_ok (fates : List Fate) (request : Request) (r : Response) :
    lastAnswer (fates ++ [sent request (.ok r)]) = some r := by
  simp [lastAnswer, answer?]

theorem lastAnswer_concat_error (fates : List Fate) (request : Request) (f : Fault) :
    lastAnswer (fates ++ [sent request (.error f)]) = (lastAnswer fates).map (·.drain.1) := by
  have hsame : (fates ++ [sent request (.error f)]).filterMap answer? = fates.filterMap answer? := by
    simp [answer?]
  unfold lastAnswer
  rw [hsame, List.getLast?_concat, Option.map_map]
  congr 1
  funext r
  cases fates.getLast?.bind answer? with
  | none => exact (Response.drain_drain r).symm
  | some _ => rfl

theorem lastFault_concat_ok (fates : List Fate) (request : Request) (r : Response) :
    lastFault (fates ++ [sent request (.ok r)]) = lastFault fates := by
  simp [lastFault, fault?]

theorem lastFault_concat_error (fates : List Fate) (request : Request) (f : Fault) :
    lastFault (fates ++ [sent request (.error f)]) = some f := by
  simp [lastFault, fault?]

end Fate

/-- The hosts that lie ahead of a request. -/
def Progress.ahead (R : Roster σ) (p : Progress σ τ) : List Endpoint := p.session.ahead R p.roster

namespace Job

/-- What becomes of hosts one after another, whose requests are sent from the state `t` on. -/
def fates [DomainNames] (T : Transport τ) (j : Job) : List Endpoint → τ → List Fate
  | [], _ => []
  | e :: es, t =>
    if e.host.isEmpty then .nameless :: j.fates T es t
    else
      match j.client.prepare j.request e j.context with
      | .error f => .unprepared f :: j.fates T es t
      | .ok request => .sent request (T.send request t).outcome :: j.fates T es (T.send request t).state

/-- The result with which a fate ends the request; none if the next host is tried. -/
def endsWith (j : Job) : Fate → Option (Except Failure Response)
  | .nameless => some (.error (.invariantViolation (.emptyHost j.supplied)))
  | .unprepared f => some (.error f)
  | .sent _ (.ok r) =>
    if r.status = 500 ∨ r.status = 503 ∨ r.status = 504 then none else some (.ok r)
  | .sent _ (.error f) =>
    match f.root with
    | .io _ _ | .timeout _ =>
      if f.LeavesDoubt ∧ (j.request.method.name = "POST" ∨ j.request.method.name = "PATCH") ∧
          j.client.retryNonIdempotent = false then
        some (.error (.transport f))
      else none
    | _ => some (.error (.transport f))

/-- How many of the fates are attempts: those before the one that ends the request, and that one if
    the request was sent. -/
def sends (j : Job) : List Fate → Nat
  | [] => 0
  | fate :: rest =>
    match j.endsWith fate with
    | none => 1 + j.sends rest
    | some _ => if fate.isSent then 1 else 0

/-- The hosts that the session of a request hands out, if all of them fail. -/
def hosts (R : Roster σ) (j : Job) (w : World σ τ) : List Endpoint := (j.begin R w).ahead R

/-! ## The end of a request -/

variable {R : Roster σ} {T : Transport τ} {j : Job} {p q : Progress σ τ}

/-- An answer ends the request unless another host may do better. -/
theorem endsWith_ok (j : Job) (request : Request) (r : Response) :
    j.endsWith (.sent request (.ok r)) = if r.isRecoverable = true then none else some (.ok r) := by
  have hstatus : r.isRecoverable = true ↔ r.status = 500 ∨ r.status = 503 ∨ r.status = 504 := by
    unfold Response.isRecoverable Response.isRecoverableStatus
    rw [Bool.or_eq_true, Bool.or_eq_true, beq_iff_eq, beq_iff_eq, beq_iff_eq, or_assoc]
  simp only [endsWith, hstatus]

/-- A fault ends the request unless it is a matter of input and output, and the request may be
    repeated. -/
theorem endsWith_error (j : Job) (request : Request) (f : Fault) :
    j.endsWith (.sent request (.error f)) =
      if f.isIo = true ∧ j.client.mayRepeat j.request.method f = true then none
      else some (.error (.transport f)) := by
  simp only [endsWith, ← Client.mayRepeat_eq_false_iff]
  cases hroot : f.root with
  | io | timeout =>
    have hio : f.isIo = true := by rw [Fault.isIo, hroot]
    simp only [hio, true_and]
    cases j.client.mayRepeat j.request.method f <;> rfl
  | wrapped | other =>
    have hother : f.isIo = false := by rw [Fault.isIo, hroot]
    simp only [hother, Bool.false_eq_true, false_and, if_false]

/-- An attempt that leaves the request open ends it with nothing. -/
theorem LeavesOpen.endsWith {a : Attempt} (h : j.LeavesOpen a) : j.endsWith a.fate = none := by
  unfold Attempt.fate
  obtain ⟨r, ho, hr⟩ | ⟨f, ho, hio, hm⟩ := h
  · rw [ho, endsWith_ok, if_pos hr]
  · rw [ho, endsWith_error, if_pos ⟨hio, hm⟩]

/-! ## One host -/

theorem fates_of_unnamed [DomainNames] {e : Endpoint} (h : e.host.isEmpty = true)
    (es : List Endpoint) (t : τ) : j.fates T (e :: es) t = .nameless :: j.fates T es t := by
  simp only [fates, h, if_true]

theorem fates_of_unprepared [DomainNames] {e : Endpoint} {f : Failure} (h : e.host.isEmpty = false)
    (hf : j.client.prepare j.request e j.context = .error f) (es : List Endpoint) (t : τ) :
    j.fates T (e :: es) t = .unprepared f :: j.fates T es t := by
  simp only [fates, h, hf, Bool.false_eq_true, if_false]

theorem fates_of_sendable [DomainNames] {e : Endpoint} {request : Request}
    (h : Sendable R j p e request) (es : List Endpoint) :
    j.fates T (e :: es) p.transport = (attemptAt R T j p e request).fate ::
      j.fates T es (T.send request p.transport).state := by
  simp only [fates, h.named, h.prepared, Bool.false_eq_true, if_false]
  rfl

/-- A step that closes a request at a host that was handed out does so with the result that the fate
    of this host has, and makes an attempt if that is the fate. -/
theorem Closed.endsWith [DomainNames] {o : Except Failure Response} {e : Endpoint}
    (h : Closed R T j p o q) (asked : (j.asked R p).host = .ok e) (es : List Endpoint) :
    ∃ fate rest, j.fates T (e :: es) p.transport = fate :: rest ∧ j.endsWith fate = some o ∧
      ((fate.isSent = false ∧ q.trail = p.trail) ∨
        ∃ a : Attempt, a.candidate = e ∧ a.fate = fate ∧ q.trail = p.trail ++ [a]) := by
  cases h with
  | unsupplied none => cases asked.symm.trans none
  | unnamed asked' unnamed =>
    cases asked.symm.trans asked'
    exact ⟨_, _, fates_of_unnamed unnamed es p.transport, rfl, Or.inl ⟨rfl, rfl⟩⟩
  | unprepared asked' named unprepared =>
    cases asked.symm.trans asked'
    exact ⟨_, _, fates_of_unprepared named unprepared es p.transport, rfl, Or.inl ⟨rfl, rfl⟩⟩
  | answered sent _ _ outcome fine =>
    cases asked.symm.trans sent.asked
    refine ⟨_, _, fates_of_sendable sent.toSendable es, ?_, Or.inr ⟨_, rfl, rfl, sent.trail⟩⟩
    rw [Attempt.fate, attemptAt, outcome, endsWith_ok, fine]
    rfl
  | broken sent _ _ outcome other =>
    cases asked.symm.trans sent.asked
    refine ⟨_, _, fates_of_sendable sent.toSendable es, ?_, Or.inr ⟨_, rfl, rfl, sent.trail⟩⟩
    rw [Attempt.fate, attemptAt, outcome, endsWith_error, other]
    rfl
  | doubtful sent _ _ outcome _ once =>
    cases asked.symm.trans sent.asked
    refine ⟨_, _, fates_of_sendable sent.toSendable es, ?_, Or.inr ⟨_, rfl, rfl, sent.trail⟩⟩
    rw [Attempt.fate, attemptAt, outcome, endsWith_error, once]
    simp

/-! ## The way to the end -/

/-- The host that the session hands out is the first of those ahead. -/
theorem ahead_of_asked {e : Endpoint} (hnever : j.context.cancellation = .never)
    (h : p.session.mayContinue j.context.cancellation p.now = true)
    (he : (j.asked R p).host = .ok e) :
    p.ahead R = e :: (j.asked R p).session.ahead R (R.report e (j.asked R p).state).state := by
  unfold asked at he ⊢
  rw [hnever] at h he ⊢
  exact Session.ahead_of_mayContinue R h he

/-- Where a request goes on, the host that it tried is the first of those that lay ahead. -/
theorem GoesOn.ahead [DomainNames] (h : GoesOn R T j p q)
    (hnever : j.context.cancellation = .never) :
    ∃ a : Attempt, q.trail = p.trail ++ [a] ∧ p.ahead R = a.candidate :: q.ahead R ∧
      j.fates T (p.ahead R) p.transport = a.fate :: j.fates T (q.ahead R) q.transport := by
  obtain ⟨e, request, hr⟩ := h.retried
  have hahead : p.ahead R = e :: q.ahead R := by
    rw [ahead_of_asked hnever h.1 hr.asked]
    unfold Progress.ahead
    rw [hr.session, hr.roster]
  refine ⟨attemptAt R T j p e request, hr.trail, hahead, ?_⟩
  rw [hahead, fates_of_sendable hr.toSendable, hr.transport]

/-- What lay ahead of a request at one point is what it tried up to another, and what lies ahead
    there. -/
theorem Reaches.ahead [DomainNames] (h : Reaches R T j p q)
    (hnever : j.context.cancellation = .never) {tried : List Attempt}
    (ht : q.trail = p.trail ++ tried) :
    p.ahead R = tried.map (·.candidate) ++ q.ahead R ∧
      j.fates T (p.ahead R) p.transport =
        tried.map (·.fate) ++ j.fates T (q.ahead R) q.transport := by
  induction h generalizing tried with
  | refl =>
    obtain rfl : tried = [] := by simpa using ht
    exact ⟨rfl, rfl⟩
  | tail hb hstep ih =>
    obtain ⟨before, hbefore, _⟩ := Reaches.trail hb
    obtain ⟨a, htrail, hahead, hfates⟩ := hstep.ahead hnever
    obtain ⟨ih₁, ih₂⟩ := ih hbefore
    obtain rfl : tried = before ++ [a] := by
      rw [htrail, hbefore, List.append_assoc] at ht
      exact (List.append_cancel_left ht).symm
    refine ⟨?_, ?_⟩
    · rw [ih₁, hahead]
      simp
    · rw [ih₂, hfates]
      simp

/-- A request ends when nothing lies ahead, or at the next of the hosts ahead with the result that the
    fate of this host has. -/
theorem Ends.ahead [DomainNames] {o : Except Failure Response} (h : Ends R T j p o q)
    (hnever : j.context.cancellation = .never) :
    (p.ahead R = [] ∧ o = p.conclusion .noAttempts ∧ q = p) ∨
      ∃ e es fate rest, p.ahead R = e :: es ∧
        j.fates T (p.ahead R) p.transport = fate :: rest ∧ j.endsWith fate = some o ∧
        ((fate.isSent = false ∧ q.trail = p.trail) ∨
          ∃ a : Attempt, a.candidate = e ∧ a.fate = fate ∧ q.trail = p.trail ++ [a]) := by
  cases h with
  | spent h =>
    rw [hnever] at h
    exact Or.inl ⟨Session.ahead_of_spent R h p.roster, rfl, rfl⟩
  | closed h asked last =>
    have hahead := ahead_of_asked hnever h asked
    obtain ⟨fate, rest, hfates, hover, hlast⟩ := last.endsWith asked _
    exact Or.inr ⟨_, _, fate, rest, hahead, by rw [hahead]; exact hfates, hover, hlast⟩

/-- The answer and the fault that are kept are the last of those that came. -/
structure Kept (p : Progress σ τ) : Prop where
  response : p.response = Fate.lastAnswer (p.trail.map (·.fate))
  fault : p.fault = Fate.lastFault (p.trail.map (·.fate))

theorem Retried.kept_trail [DomainNames] {e : Endpoint} {request : Request}
    (h : Retried R T j p q e request) (hp : Kept p) : Kept q := by
  have hfates : q.trail.map (·.fate) = p.trail.map (·.fate) ++
      [.sent request (T.send request p.transport).outcome] := by
    rw [h.trail, List.map_append]
    rfl
  obtain ⟨r, ho, -, hresponse, hfault⟩ | ⟨f, ho, -, -, hresponse, hfault⟩ := h.kept
  · refine ⟨?_, ?_⟩
    · rw [hfates, ho, Fate.lastAnswer_concat_ok, hresponse]
    · rw [hfates, ho, Fate.lastFault_concat_ok, hfault, hp.fault]
  · refine ⟨?_, ?_⟩
    · rw [hfates, ho, Fate.lastAnswer_concat_error, hresponse, hp.response]
    · rw [hfates, ho, Fate.lastFault_concat_error, hfault]

theorem Reaches.kept [DomainNames] {w : World σ τ} {m : Progress σ τ}
    (h : Reaches R T j (j.begin R w) m) : Kept m :=
  h.keeps (fun hr => hr.kept_trail) ⟨rfl, rfl⟩

theorem Kept.conclusion (hp : Kept p) :
    p.conclusion .noAttempts = Fate.conclusion (p.trail.map (·.fate)) := by
  cases hr : Fate.lastAnswer (p.trail.map (·.fate)) with
  | some r => simp [Progress.conclusion, Fate.conclusion, hp.response, hr]
  | none =>
    cases hf : Fate.lastFault (p.trail.map (·.fate)) <;>
      simp [Progress.conclusion, Fate.conclusion, hp.response, hp.fault, hr, hf]

/-! ## The whole way -/

theorem findSome?_endsWith_append {tried : List Attempt} (h : ∀ a ∈ tried, j.LeavesOpen a)
    (rest : List Fate) :
    (tried.map (·.fate) ++ rest).findSome? j.endsWith = rest.findSome? j.endsWith := by
  induction tried with
  | nil => rfl
  | cons a tried ih =>
    have ha := (h a (List.mem_cons_self ..)).endsWith
    rw [List.map_cons, List.cons_append, List.findSome?_cons, ha]
    exact ih fun b hb => h b (List.mem_cons_of_mem a hb)

theorem sends_append {tried : List Attempt} (h : ∀ a ∈ tried, j.LeavesOpen a) (rest : List Fate) :
    j.sends (tried.map (·.fate) ++ rest) = tried.length + j.sends rest := by
  induction tried with
  | nil => simp
  | cons a tried ih =>
    have ha := (h a (List.mem_cons_self ..)).endsWith
    rw [List.map_cons, List.cons_append, sends, ha, List.length_cons,
      ih fun b hb => h b (List.mem_cons_of_mem a hb)]
    show 1 + (tried.length + j.sends rest) = _
    omega

/-- The result of a run and its attempts are those that the fates of the hosts tell. -/
theorem run_outcome [DomainNames] (R : Roster σ) (T : Transport τ) (j : Job) (w : World σ τ)
    (hnever : j.context.cancellation = .never) :
    let hosts := j.hosts R w
    let fates := j.fates T hosts w.transport
    let run := j.run R T w
    run.1 = (fates.findSome? j.endsWith).getD (Fate.conclusion fates) ∧
      run.2.trail.map (·.candidate) = hosts.take (j.sends fates) ∧
      run.2.trail.map (·.fate) = fates.take (j.sends fates) := by
  intro hosts fates run
  obtain ⟨q, hreach, hends⟩ := run_ends R T j w
  obtain ⟨tried, htrail, hopen⟩ := hreach.trail
  obtain ⟨hahead, hfates⟩ := hreach.ahead hnever htrail
  change Ends R T j q run.1 run.2 at hends
  change q.trail = tried at htrail
  change hosts = _ at hahead
  change fates = _ at hfates
  rw [hfates, hahead, findSome?_endsWith_append hopen, sends_append hopen]
  obtain ⟨hnone, ho, hq⟩ | ⟨e, es, fate, rest, hnext, hfate, hover, hlast⟩ := hends.ahead hnever
  · -- Nothing lies ahead, so all hosts were tried.
    have hend : j.fates T [] q.transport = [] := rfl
    rw [ho, hreach.kept.conclusion, hq, hnone, hend, htrail]
    simp [sends, List.take_of_length_le]
  · -- The next of the hosts ahead has the fate that ends the request.
    rw [hfate, hnext, List.findSome?_cons, hover]
    refine ⟨rfl, ?_⟩
    rcases hlast with ⟨hunsent, hsame⟩ | ⟨a, rfl, rfl, hone⟩
    · have hsends : j.sends (fate :: rest) = 0 := by simp [sends, hover, hunsent]
      rw [hsends, hsame, htrail]
      simp
    · have hsends : j.sends (a.fate :: rest) = 1 := by
        rw [sends, hover]
        rfl
      rw [hsends, hone, htrail]
      simp [List.take_append, List.take_of_length_le]

/-- Nothing but an invalid request keeps a request from being sent to a host with a name. -/
theorem fates_unprepared [DomainNames] {f : Failure} : ∀ {es : List Endpoint} {t : τ},
    .unprepared f ∈ j.fates T es t → ∃ cause, f = .invalidRequest cause
  | [], t, h => by
    rw [fates] at h
    cases h
  | e :: es, t, h => by
    unfold fates at h
    split at h
    · rcases List.mem_cons.mp h with h | h
      · cases h
      · exact fates_unprepared h
    · split at h
      · rename_i f' hf
        rcases List.mem_cons.mp h with h | h
        · cases h
          exact Client.prepare_error hf
        · exact fates_unprepared h
      · rcases List.mem_cons.mp h with h | h
        · cases h
        · exact fates_unprepared h

end Job

namespace Client

/-- **What becomes of a request.**  The hosts are those that the session hands out, and their fates
    are what the transport answers when the request is sent to one after another.  The result is
    that of the first fate that ends the request.  If there is none, it is the most recent answer,
    or else the most recent fault, or else that there were no attempts.  The request was sent to
    the hosts before that one, each once and in order, to that one if it could be sent there, and
    to no other: the trail is all that the transport was sent. -/
theorem execute_outcome [DomainNames] (R : Roster σ) (T : Transport τ) (c : Client) (r : Request)
    (context : Context) (w : World σ τ) {supplied : Endpoint} (hplain : r.isSecure = false)
    (hend : r.endpoint = .ok supplied) (hsup : R.supports w.roster supplied = true)
    (hnever : context.cancellation = .never) :
    let j := c.job r supplied context
    let hosts := j.hosts R w
    let fates := j.fates T hosts w.transport
    let run := c.execute R T r context w
    run.outcome = (fates.findSome? j.endsWith).getD (Fate.conclusion fates) ∧
      run.trail.map (·.candidate) = hosts.take (j.sends fates) ∧
      run.trail.map (·.fate) = fates.take (j.sends fates) ∧
      T.replay w.transport (run.trail.map (·.request)) =
        (run.trail.map (·.outcome), run.world.transport) ∧
      ∀ f, .unprepared f ∈ fates → ∃ cause, f = .invalidRequest cause := by
  intro j hosts fates run
  have hrun : run = failOver R T j w := execute_eq_failOver T c context hplain hend hsup
  obtain ⟨houtcome, hcandidates, hfates⟩ := Job.run_outcome R T j w hnever
  clear_value run
  subst hrun
  exact ⟨houtcome, hcandidates, hfates, Job.run_replayed R T j w, fun f => Job.fates_unprepared⟩

/-- In the rehearsal of a PUT request, the first host that is well ends it. -/
theorem rehearsed_outcome :
    let j := Rehearsal.client.job (Rehearsal.request "PUT") (.of "service" none) .empty
    (j.hosts Provider.roster Rehearsal.world).map (·.host) = ["::1", "::2", "::3"] ∧
      (Rehearsal.run "PUT").trail.map (·.candidate) = j.hosts Provider.roster Rehearsal.world ∧
      ∃ r, (Rehearsal.run "PUT").outcome = .ok r ∧ r.status = 200 := by
  intro j
  have hendpoint : (Rehearsal.request "PUT").endpoint = .ok (.of "service" none) := by
    have hsome : (Rehearsal.request "PUT").endpoint.toOption = some (.of "service" none) := by
      decide +kernel
    cases he : (Rehearsal.request "PUT").endpoint with
    | error f =>
      rw [he] at hsome
      cases hsome
    | ok e =>
      rw [he] at hsome
      exact congrArg Except.ok (Option.some.inj hsome)
  obtain ⟨houtcome, hcandidates, -⟩ := execute_outcome Provider.roster Script.transport
    Rehearsal.client (Rehearsal.request "PUT") .empty Rehearsal.world (by decide) hendpoint
    (by decide +kernel) rfl
  refine ⟨by decide +kernel, hcandidates.trans (by decide +kernel), ?_⟩
  have hstatus : (Rehearsal.run "PUT").outcome.toOption.map (·.status) = some 200 := by
    unfold Rehearsal.run
    rw [houtcome]
    decide +kernel
  cases ho : (Rehearsal.run "PUT").outcome with
  | error f =>
    rw [ho] at hstatus
    cases hstatus
  | ok r =>
    rw [ho] at hstatus
    exact ⟨r, rfl, Option.some.inj hstatus⟩

end Client

end Failover
