import Mathlib.Data.List.Basic
import Failover.Proofs.Client.Log
import Failover.Proofs.Response
import Failover.Proofs.Url.Idna
/-!
# How grave a request is

The log tells of each attempt and of the request as a whole, and each time says how grave it is.

* `Event.TellsEnd` : the entry has the message of an attempt or of a request that is over.
  `Roster.Aside`: it has another one, or is from the providers;
* `Job.LastTold` : no entry for an attempt follows that of the last one, unless the providers log one.
  `Job.run_lastTold`: so it is at the end of every run;
* `Job.run_failed_iff` : a run fails just when its last attempt was in error, statuses of 600 and more
  apart;
* `Client.request_severity_iff` : the same of what is logged;
* `Client.severities_apart` : a status of 600 is grave for the attempt and not for the request.
-/

set_option autoImplicit false

namespace Failover

variable {σ τ : Type}

/-- The providers log the event when they are asked for candidates or hear of a failure. -/
def Roster.Logs (R : Roster σ) (ev : Event) : Prop :=
  ∃ e st, ev ∈ (R.candidates e st).events ∨ ev ∈ (R.report e st).events

namespace Event

theorem level_attemptFinished (r : AttemptReport) :
    (attemptFinished r).level = .error ↔ r.isError = true := by
  cases h : r.isError <;> simp [level, h]

theorem level_requestFinished (r : RequestReport) :
    (requestFinished r).level = .error ↔ r.isError = true := by
  cases h : r.isError <;> simp [level, h]

/-- The event says that an attempt or a request is over. -/
def TellsEnd (ev : Event) : Prop :=
  ev.message = "Attempt finished" ∨ ev.message = "Request finished"

instance : DecidablePred TellsEnd := fun ev =>
  inferInstanceAs (Decidable (ev.message = "Attempt finished" ∨ ev.message = "Request finished"))

/-- No other kinds of events are worded like this. -/
theorem tellsEnd_iff {ev : Event} :
    ev.TellsEnd ↔ (∃ r, ev = .attemptFinished r) ∨ ∃ r, ev = .requestFinished r := by
  cases ev <;> simp [TellsEnd, message]

end Event

/-- The event does not say that something is over, or the providers have logged it. -/
def Roster.Aside (R : Roster σ) (ev : Event) : Prop := ¬ ev.TellsEnd ∨ R.Logs ev

/-- What a report of failure leaves in the log does not say that anything is over. -/
theorem Progress.reported_aside (R : Roster σ) (shortName : String) (e : Endpoint) (st : σ) :
    ∀ ev ∈ (R.report e st).events ++ refusalEvents shortName e (R.report e st).value,
      R.Aside ev := by
  intro ev hev
  rcases List.mem_append.mp hev with hev | hev
  · exact Or.inr ⟨e, st, Or.inr hev⟩
  · unfold refusalEvents at hev
    split at hev
    · cases hev
    · rw [List.mem_singleton.mp hev]
      exact Or.inl (by simp [Event.tellsEnd_iff])

namespace Job

variable {R : Roster σ} {T : Transport τ} {j : Job} {p q : Progress σ τ}

/-! ## The last entry for an attempt -/

/-- Nor does what a hand-out logs. -/
theorem asked_aside (R : Roster σ) (j : Job) (p : Progress σ τ) :
    ∀ ev ∈ (j.asked R p).events, R.Aside ev := by
  intro ev hev
  unfold asked at hev
  have hpause : ev ∈ p.session.pauseEvents j.context.cancellation p.now → R.Aside ev := by
    intro hev
    obtain ⟨attempt, delay, rfl⟩ | rfl := Session.mem_pauseEvents hev
    all_goals exact Or.inl (by simp [Event.tellsEnd_iff])
  obtain ⟨-, hnone, -⟩ | ⟨supplied, -, hfound, -⟩ :=
    p.session.next_roster R j.context.cancellation p.now p.roster
  · rw [hnone] at hev
    exact hpause hev
  · rw [hfound] at hev
    rcases List.mem_append.mp hev with hev | hev
    · exact hpause hev
    · exact Or.inr ⟨supplied, p.roster, Or.inl hev⟩

theorem endEvents_aside (R : Roster σ) (p : Progress σ τ) (f : Failure) :
    ∀ ev ∈ p.endEvents f, R.Aside ev := by
  intro ev hev
  rw [Progress.mem_endEvents hev]
  exact Or.inl (by simp [Event.tellsEnd_iff])

theorem stopEvents_aside (R : Roster σ) (j : Job) (p : Progress σ τ) :
    ∀ ev ∈ j.stopEvents R p, R.Aside ev := by
  intro ev hev
  obtain ⟨f, rfl⟩ := mem_stopEvents hev
  exact Or.inl (by simp [Event.tellsEnd_iff])

theorem reportEvents_aside (R : Roster σ) (j : Job) (p : Progress σ τ) (e : Endpoint) :
    ∀ ev ∈ j.reportEvents R p e, R.Aside ev :=
  Progress.reported_aside R j.client.shortName e (j.asked R p).state

/-- Nor does what follows the entry for an attempt. -/
theorem aftermath_aside (R : Roster σ) (T : Transport τ) (j : Job) (p : Progress σ τ) (e : Endpoint)
    (request : Request) : ∀ ev ∈ j.aftermath R T p e request, R.Aside ev := by
  have hreport := j.reportEvents_aside R p e
  unfold aftermath
  split
  · exact fun _ hev => absurd hev List.not_mem_nil
  · exact hreport
  · exact List.forall_mem_singleton.mpr (Or.inl (by simp [Event.tellsEnd_iff]))
  · exact List.forall_mem_append.mpr ⟨hreport,
      List.forall_mem_singleton.mpr (Or.inl (by simp [Event.tellsEnd_iff]))⟩
  · exact List.forall_mem_append.mpr ⟨hreport,
      List.forall_mem_singleton.mpr (Or.inl (by simp [Event.tellsEnd_iff]))⟩

/-- Nothing behind the entry for the last attempt says that another one is over, but for what the
    providers log. -/
def LastTold (R : Roster σ) (j : Job) (p : Progress σ τ) : Prop :=
  ∀ tried a, p.trail = tried ++ [a] → ∃ before after,
    p.events = before ++
      .attemptFinished (j.client.attemptReport j.context.transactionId a) :: after ∧
    ∀ ev ∈ after, R.Aside ev

theorem LastTold.step [DomainNames] (hp : LastTold R j p) :
    LastTold R j (j.step R T p).progress := by
  intro tried a ht
  obtain ⟨e, request, hs, hevents⟩ | ⟨hnone, hevents⟩ := j.step_events R T p
  · -- The step has made the last attempt.
    rw [(j.step_trail R T p).1 e request hs] at ht
    obtain ⟨-, hlast⟩ := List.append_inj' ht rfl
    obtain rfl := List.singleton_inj.mp hlast
    refine ⟨p.events ++ ((j.asked R p).events ++
      p.response.elim [] (Progress.releaseEvents j.client.shortName)), _, ?_,
      j.aftermath_aside R T p e request⟩
    rw [hevents]
    simp only [List.append_assoc]
  · rw [(j.step_trail R T p).2 hnone] at ht
    obtain ⟨before, after, hold, hafter⟩ := hp tried a ht
    refine ⟨before, after ++ ((j.asked R p).events ++ j.stopEvents R p), ?_, ?_⟩
    · rw [hevents, hold, List.append_assoc]
      rfl
    · exact List.forall_mem_append.mpr ⟨hafter,
        List.forall_mem_append.mpr ⟨j.asked_aside R p, j.stopEvents_aside R p⟩⟩

theorem run_lastTold [DomainNames] (R : Roster σ) (T : Transport τ) (j : Job) (w : World σ τ) :
    LastTold R j (j.run R T w).2 := by
  refine run_keeps (P := LastTold R j) (fun p _ hp => hp.step) ?_
  intro tried a ht
  exact absurd ht.symm (by simp [begin])

/-! ## Whether a run fails -/

/-- Only an answer that blames its server is kept for later. -/
theorem Reaches.recoverable [DomainNames] {w : World σ τ} {m : Progress σ τ}
    (h : Reaches R T j (j.begin R w) m) : ∀ r, m.response = some r → r.isRecoverable = true := by
  have hnone : ∀ r, (j.begin R w).response = some r → r.isRecoverable = true := by
    intro r hr
    cases hr
  refine h.keeps (P := fun p => ∀ r, p.response = some r → r.isRecoverable = true) ?_ hnone
  intro b c e request hr hb r hresponse
  obtain ⟨r', -, hrecoverable, hnew, -⟩ | ⟨f, -, -, -, hkept, -⟩ := hr.kept
  · cases hnew.symm.trans hresponse
    exact hrecoverable
  · obtain ⟨r', hr', rfl⟩ := Option.map_eq_some_iff.mp (hkept.symm.trans hresponse)
    rw [Response.isRecoverable_drain]
    exact hb r' hr'

theorem isFailed_iff (o : Except Failure Response) :
    Client.isFailed o = true ↔ ∀ r, o = .ok r → 500 ≤ r.status ∧ r.status < 600 := by
  cases o with
  | ok r => simp [Client.isFailed, Response.isServerError]
  | error f => simp [Client.isFailed]

theorem isError_attemptReport_iff (c : Client) (id : Option String) (a : Attempt) :
    (c.attemptReport id a).isError = true ↔ ∀ r, a.outcome = .ok r → 500 ≤ r.status := by
  unfold Client.attemptReport AttemptReport.isError
  cases a.outcome with
  | ok r => simp
  | error f => simp

theorem blames_of_isRecoverable {r : Response} (h : r.isRecoverable = true) :
    500 ≤ r.status ∧ r.status < 600 := by
  have := r.isRecoverable_iff.mp h
  omega

/-- A run that ends without a final attempt fails, as the attempts before it have failed. -/
theorem isFailed_conclusion (h : ∀ r, p.response = some r → r.isRecoverable = true) (f : Failure) :
    Client.isFailed (p.conclusion f) = true := by
  refine (isFailed_iff _).mpr fun r hr => ?_
  exact blames_of_isRecoverable (h r (Progress.response_of_conclusion hr))

theorem LeavesOpen.blames {a : Attempt} (h : j.LeavesOpen a) :
    ∀ r, a.outcome = .ok r → 500 ≤ r.status ∧ r.status < 600 := by
  intro r hr
  obtain ⟨r', ho, hrecoverable⟩ | ⟨f, ho, -⟩ := h
  · cases ho.symm.trans hr
    exact blames_of_isRecoverable hrecoverable
  · cases ho.symm.trans hr

/-- **A run fails just when its last attempt was not answered, or by a status from 500 to 599**,
    however it ends. -/
theorem run_failed_iff [DomainNames] (R : Roster σ) (T : Transport τ) (j : Job) (w : World σ τ)
    {tried : List Attempt} {a : Attempt} (ht : (j.run R T w).2.trail = tried ++ [a]) :
    Client.isFailed (j.run R T w).1 = true ↔
      ∀ r, a.outcome = .ok r → 500 ≤ r.status ∧ r.status < 600 := by
  obtain ⟨m, hreach, hends⟩ := run_ends R T j w
  have hopen : m.trail = tried ++ [a] →
      ∀ r, a.outcome = .ok r → 500 ≤ r.status ∧ r.status < 600 := by
    intro hm
    obtain ⟨more, hmore, hall⟩ := hreach.trail
    have hmore : m.trail = more := hmore
    have ha : a ∈ more := by
      rw [← hmore, hm]
      exact List.mem_append_right tried (List.mem_singleton_self a)
    exact (hall a ha).blames
  -- The last attempt is one before the end, or the one that makes it.
  have hlast : ∀ {e request}, m.trail ++ [attemptAt R T j m e request] = tried ++ [a] →
      a.outcome = (T.send request m.transport).outcome := by
    intro e request h
    obtain ⟨-, hsame⟩ := List.append_inj' h rfl
    rw [← List.singleton_inj.mp hsame]
    rfl
  generalize (j.run R T w).1 = o, (j.run R T w).2 = q at ht hends
  cases hends with
  | spent => exact iff_of_true (isFailed_conclusion hreach.recoverable _) (hopen ht)
  | closed _ _ last =>
    cases last with
    | unsupplied => exact iff_of_true (isFailed_conclusion hreach.recoverable _) (hopen ht)
    | unnamed | unprepared => exact iff_of_true rfl (hopen ht)
    | answered sent _ _ outcome =>
      rw [sent.trail] at ht
      rw [isFailed_iff, hlast ht, outcome]
      simp
    | broken sent _ _ outcome | doubtful sent _ _ outcome =>
      rw [sent.trail] at ht
      rw [isFailed_iff, hlast ht, outcome]
      simp

/-- The attempts of a run are counted. -/
theorem run_attempts [DomainNames] (R : Roster σ) (T : Transport τ) (j : Job) (w : World σ τ) :
    (j.run R T w).2.tally.attempts = (j.run R T w).2.trail.length := by
  refine run_keeps (P := fun p => p.tally.attempts = p.trail.length) ?_ rfl
  intro p _ hp
  have hone : ∀ a : Attempt, p.tally.attempts + 1 = (p.trail ++ [a]).length := by
    intro a
    rw [hp, List.length_append, List.length_singleton]
  obtain ⟨q, e, request, hstep, hr⟩ | ⟨o, q, hstep, hc⟩ := step_cases R T j p
  · rw [hstep]
    show q.tally.attempts = q.trail.length
    rw [hr.tally, hr.trail]
    exact hone _
  · rw [hstep]
    cases hc with
    | unsupplied | unnamed | unprepared => exact hp
    | answered sent _ tally | broken sent _ tally | doubtful sent _ tally =>
      show q.tally.attempts = q.trail.length
      rw [tally, sent.trail]
      exact hone _

end Job

namespace Client

/-- **How grave a request is said to be follows from its last attempt.**  The entry for the request
    comes last.  Of the entries before it that for the last attempt is the last on an attempt, unless
    the providers log more of them.  It is an error exactly if the entry for the attempt is, unless
    the attempt was answered with a status of 600 or more. -/
theorem request_severity_iff [DomainNames] (R : Roster σ) (T : Transport τ) (c : Client)
    (r : Request) (context : Context) (w : World σ τ) {tried : List Attempt} {a : Attempt}
    (htrail : (c.execute R T r context w).trail = tried ++ [a]) :
    let told : Event := .attemptFinished (c.attemptReport context.transactionId a)
    ∃ before after report,
      (c.execute R T r context w).events =
        before ++ told :: (after ++ [.requestFinished report]) ∧
      (∀ other, .attemptFinished other ∈ after → R.Logs (.attemptFinished other)) ∧
      ((Event.requestFinished report).level = .error ↔
        told.level = .error ∧ ∀ answer, a.outcome = .ok answer → answer.status < 600) := by
  intro told
  obtain ⟨-, hx⟩ | ⟨f, hx⟩ | ⟨supplied, -, -, hx⟩ := execute_cases R T c r context w
  · rw [hx] at htrail
    simp [sendDirectly] at htrail
  · rw [hx] at htrail
    simp [Execution.refused] at htrail
  · let j := c.job r supplied context
    have ht : (j.run R T w).2.trail = tried ++ [a] := by
      rw [hx] at htrail
      exact htrail
    obtain ⟨before, after, hevents, hafter⟩ := j.run_lastTold R T w tried a ht
    let tally : Tally := { (j.run R T w).2.tally with elapsed := .between w.now (j.run R T w).2.now }
    refine ⟨before, after, c.requestReport (j.run R T w).1 tally, ?_, ?_, ?_⟩
    · rw [hx]
      show (j.run R T w).2.events ++ _ = _
      rw [hevents, List.append_assoc]
      rfl
    · intro other hother
      exact (hafter _ hother).resolve_left (not_not_intro (Or.inl rfl))
    · have hattempts : (tally.attempts == 0) = false := by
        have hlength : tally.attempts = (j.run R T w).2.trail.length := j.run_attempts R T w
        rw [hlength, ht]
        simp
      have hrequest : (c.requestReport (j.run R T w).1 tally).isError = isFailed (j.run R T w).1 := by
        show (tally.attempts == 0 || isFailed (j.run R T w).1) = _
        rw [hattempts, Bool.false_or]
      rw [Event.level_requestFinished, Event.level_attemptFinished, hrequest,
        Job.run_failed_iff R T j w ht, Job.isError_attemptReport_iff, ← forall_and]
      exact forall_congr' fun answer => imp_and

/-- A status of 600 is an error of the attempt and none of the request. -/
theorem severities_apart :
    let w : World Provider Script :=
      { Rehearsal.world with transport := ⟨[("[::1]:8080", [.ofStatus 600 []])], []⟩ }
    let run := Rehearsal.client.execute Provider.roster Script.transport (Rehearsal.request "GET")
      .empty w
    run.trail.length = 1 ∧ (run.events.map fun ev => (ev.message, ev.level)) =
      [("Attempt finished", .error), ("Request finished", .debug)] := by
  decide +kernel

/-- The rehearsal of a POST request ends with an attempt that is not answered: both are errors. -/
theorem rehearsed_severity :
    (Rehearsal.run "POST").trail.length = 2 ∧ ∃ before told after report,
      (Rehearsal.run "POST").events =
        before ++ .attemptFinished told :: (after ++ [.requestFinished report]) ∧
      (Event.attemptFinished told).level = .error ∧
      (Event.requestFinished report).level = .error := by
  have hlength : (Rehearsal.run "POST").trail.length = 2 := by decide +kernel
  obtain ⟨first, last, htrail⟩ := List.length_eq_two.mp hlength
  have htrail : (Rehearsal.run "POST").trail = [first] ++ [last] := htrail
  have hunanswered : ((Rehearsal.run "POST").trail.map (·.outcome.toOption.isSome)) = [true, false] := by
    decide +kernel
  obtain ⟨before, after, report, hevents, -, hlevel⟩ := request_severity_iff Provider.roster
    Script.transport Rehearsal.client (Rehearsal.request "POST") .empty Rehearsal.world
    htrail
  have hnone : ∀ answer, last.outcome ≠ .ok answer := by
    intro answer ho
    rw [htrail] at hunanswered
    simp [ho, Except.toOption] at hunanswered
  have htold : (Event.attemptFinished
      (Rehearsal.client.attemptReport Context.empty.transactionId last)).level = .error := by
    rw [Event.level_attemptFinished, Job.isError_attemptReport_iff]
    exact fun answer ho => absurd ho (hnone answer)
  exact ⟨hlength, before, _, after, report, hevents, htold,
    hlevel.mpr ⟨htold, fun answer ho => absurd ho (hnone answer)⟩⟩

end Client

end Failover
