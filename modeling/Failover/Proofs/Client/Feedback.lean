import Failover.Proofs.Client.Log
import Failover.Proofs.Client.Representation
import Failover.Proofs.Provider.Feedback
import Failover.Proofs.Url.Idna
/-!
# Which failures the providers hear of

* `Attempt.Blames` : the attempt went in a way for which its host is to blame;
* `Roster.overheard` : a roster that keeps the reports that it gets, each with its answer, and answers
  as before.  `Client.calls`: the reports that a request makes;
* `Job.run_calls` : they are about the candidates of the attempts that blame, in order;
* `Session.Backed` : every candidate that waits would be accepted.  `Job.run_taken`: so no report is
  refused where what is offered is taken back;
* `Client.feedback_exact` : both of it, for every request.
-/

set_option autoImplicit false

namespace Failover

variable {σ τ : Type}

/-- The attempt was answered by 500, 503 or 504, or a matter of input and output or a timeout is at the
    root of its fault. -/
def Attempt.Blames (a : Attempt) : Prop :=
  match a.outcome with
  | .ok r => r.status = 500 ∨ r.status = 503 ∨ r.status = 504
  | .error f =>
    match f.root with
    | .io _ _ => True
    | .timeout _ => True
    | _ => False

/-- Blame is what the client itself finds in the status or the fault. -/
theorem Attempt.blames_iff (a : Attempt) :
    a.Blames ↔ match a.outcome with
      | .ok r => r.isRecoverable = true
      | .error f => f.isIo = true := by
  unfold Blames
  cases a.outcome with
  | ok r => exact r.isRecoverable_iff.symm
  | error f =>
    simp only [Fault.isIo]
    cases f.root <;> simp

instance (a : Attempt) : Decidable a.Blames :=
  match h : a.outcome with
  | .ok r => decidable_of_iff (r.isRecoverable = true) (by rw [a.blames_iff, h])
  | .error f => decidable_of_iff (f.isIo = true) (by rw [a.blames_iff, h])

/-! ## Reports that are kept -/

/-- One report of failure, with the answer to it. -/
abbrev Hearing := Endpoint × Except Failure Unit

/-- The roster with all reports that it got, each with the answer to it. -/
def Roster.overheard (R : Roster σ) : Roster (σ × List Hearing) where
  candidates e st := (R.candidates e st.1).mapState (·, st.2)
  supports st e := R.supports st.1 e
  report e st := (R.report e st.1).mapState (·, st.2 ++ [(e, (R.report e st.1).value)])

/-- Whoever asks an overheard roster does not notice. -/
theorem Roster.overheard_shows (R : Roster σ) : R.overheard.Shows Prod.fst R :=
  ⟨fun _ _ => rfl, fun _ _ => rfl, fun _ _ => rfl⟩

/-- A request whose reports are overheard. -/
def Client.overhear [DomainNames] (R : Roster σ) (T : Transport τ) (c : Client) (r : Request)
    (context : Context) (w : World σ τ) : Execution (σ × List Hearing) τ :=
  c.execute R.overheard T r context ⟨(w.roster, []), w.transport, w.now, w.stats⟩

/-- The reports that the providers get while a request is executed, with their answers. -/
def Client.calls [DomainNames] (R : Roster σ) (T : Transport τ) (c : Client) (r : Request)
    (context : Context) (w : World σ τ) : List Hearing :=
  (c.overhear R T r context w).world.roster.2

theorem Client.overhear_mapRoster [DomainNames] (R : Roster σ) (T : Transport τ) (c : Client)
    (r : Request) (context : Context) (w : World σ τ) :
    (c.overhear R T r context w).mapRoster Prod.fst = c.execute R T r context w :=
  execute_mapRoster R.overheard_shows T c r context _

/-! ## About whom the reports are -/

/-- What asking for candidates keeps of the state of the providers, a hand-out keeps. -/
theorem Session.next_state_keeps {R : Roster σ} {P : σ → Prop}
    (hP : ∀ (e : Endpoint) (st : σ), P st → P (R.candidates e st).state) (s : Session)
    (c : Cancellation) (now : Nat) {st : σ} (h : P st) : P (s.next R c now st).state := by
  obtain ⟨hstate, -⟩ | ⟨supplied, hstate, -⟩ := s.next_roster R c now st
  · rw [hstate]
    exact h
  · rw [hstate]
    exact hP supplied st h

namespace Job

variable {R : Roster σ} {T : Transport τ} {j : Job}

/-- The candidates to blame for attempts that failed. -/
def blamed (trail : List Attempt) : List Endpoint :=
  (trail.filter fun a => a.Blames).map (·.candidate)

theorem blamed_concat_of_blames {trail : List Attempt} {a : Attempt} (h : a.Blames) :
    blamed (trail ++ [a]) = blamed trail ++ [a.candidate] := by
  simp [blamed, h]

theorem blamed_concat_of_not_blames {trail : List Attempt} {a : Attempt} (h : ¬ a.Blames) :
    blamed (trail ++ [a]) = blamed trail := by
  simp [blamed, h]

/-- The reports so far are about the candidates to blame so far. -/
structure Told (p : Progress (σ × List Hearing) τ) : Prop where
  calls : p.roster.2.map (·.1) = blamed p.trail
  reports : p.reports = blamed p.trail

variable {p q : Progress (σ × List Hearing) τ} {e : Endpoint} {request : Request}

/-- To ask for the next host is no report. -/
theorem calls_asked : (j.asked R.overheard p).state.2 = p.roster.2 :=
  Session.next_state_keeps (R := R.overheard) (P := fun st : σ × List Hearing => st.2 = p.roster.2)
    (fun _ _ h => h) _ _ _ rfl

/-- An attempt that blames its host, and is reported, keeps this. -/
theorem Told.reported [DomainNames] (hp : Told p) (hsent : Sent R.overheard T j p q e request)
    (hreported : Reported R.overheard j p q e)
    (hblames : (attemptAt R.overheard T j p e request).Blames) : Told q := by
  have htrail : blamed q.trail = blamed p.trail ++ [e] := by
    rw [hsent.trail]
    exact blamed_concat_of_blames hblames
  have hcalls : q.roster.2.map (·.1) = (j.asked R.overheard p).state.2.map (·.1) ++ [e] := by
    rw [hreported.roster]
    exact List.map_append
  refine ⟨?_, ?_⟩
  · rw [hcalls, calls_asked, hp.calls, htrail]
  · rw [hreported.reports, hp.reports, htrail]

/-- An attempt that does not, and is not, keeps it too. -/
theorem Told.unreported [DomainNames] (hp : Told p) (hsent : Sent R.overheard T j p q e request)
    (hunreported : Unreported R.overheard j p q)
    (hfine : ¬ (attemptAt R.overheard T j p e request).Blames) : Told q := by
  have htrail : blamed q.trail = blamed p.trail := by
    rw [hsent.trail]
    exact blamed_concat_of_not_blames hfine
  refine ⟨?_, ?_⟩
  · rw [hunreported.roster, calls_asked, hp.calls, htrail]
  · rw [hunreported.reports, hp.reports, htrail]

/-- So every step keeps it. -/
theorem Told.step [DomainNames] (hp : Told p) : Told (j.step R.overheard T p).progress := by
  have hblames := (attemptAt R.overheard T j p · · |>.blames_iff)
  obtain ⟨q, e, request, hs, hr⟩ | ⟨o, q, hs, hc⟩ := step_cases R.overheard T j p
  · rw [hs]
    refine hp.reported hr.toSent hr.toReported ((hblames e request).mpr ?_)
    obtain ⟨r, ho, hrec, -⟩ | ⟨f, ho, hio, -⟩ := hr.kept
    · simpa only [attemptAt, ho] using hrec
    · simpa only [attemptAt, ho] using hio
  · rw [hs]
    have hhanded : Told (p.handedOut (j.asked R.overheard p)) :=
      ⟨(congrArg (List.map _) calls_asked).trans hp.calls, hp.reports⟩
    cases hc with
    | unsupplied => exact ⟨hhanded.calls, hhanded.reports⟩
    | unnamed | unprepared => exact hhanded
    | @answered _ e request r sent unreported _ outcome fine =>
      refine hp.unreported sent unreported ?_
      rw [hblames e request]
      simp only [attemptAt, outcome, fine, Bool.false_eq_true, not_false_eq_true]
    | @broken _ e request f sent unreported _ outcome other =>
      refine hp.unreported sent unreported ?_
      rw [hblames e request]
      simp only [attemptAt, outcome, other, Bool.false_eq_true, not_false_eq_true]
    | @doubtful _ e request f sent reported _ outcome io _ =>
      refine hp.reported sent reported ((hblames e request).mpr ?_)
      simpa only [attemptAt, outcome] using io

/-- **The reports of a run are about the candidates to blame**, in the order of the attempts. -/
theorem run_calls [DomainNames] (R : Roster σ) (T : Transport τ) (j : Job)
    {w : World (σ × List Hearing) τ} (hw : w.roster.2 = []) : Told (j.run R.overheard T w).2 := by
  refine run_keeps (fun _ _ hp => hp.step) ⟨?_, rfl⟩
  show w.roster.2.map (·.1) = []
  rw [hw]
  rfl

end Job

/-! ## No report is refused -/

namespace Session

/-- The roster is in one of the states `I`, and accepts reports on every candidate that waits. -/
structure Backed (R : Roster σ) (I : σ → Prop) (s : Session) (st : σ) : Prop where
  state : I st
  accepts : ∀ e ∈ s.waiting, R.Accepts st e

variable {R : Roster σ} {I : σ → Prop}

theorem start_backed (hR : R.TakesBack I) (policy : Policy) (supplied : Endpoint) {st : σ}
    (h : I st) :
    Backed R I (start R policy supplied st).value (start R policy supplied st).state := by
  refine ⟨hR.stays_candidates supplied h, ?_⟩
  intro e he
  have hoffered : e ∈ (R.candidates supplied st).value := by
    cases policy with
    | eachOnce => exact he
    | backoff plan => exact he
  exact hR.offered h hoffered

theorem Backed.report (hR : R.TakesBack I) {s : Session} {st : σ} (h : Backed R I s st)
    (e : Endpoint) : Backed R I s (R.report e st).state :=
  ⟨hR.stays_report e h.state, fun c hc => hR.report e h.state (h.accepts c hc)⟩

/-- A host that is handed out waited before, and what waits then is accepted. -/
theorem Backed.next (hR : R.TakesBack I) {s : Session} {st : σ} (h : Backed R I s st)
    (c : Cancellation) (now : Nat) :
    Backed R I (s.next R c now st).session (s.next R c now st).state ∧
      ∀ e, (s.next R c now st).host = .ok e → R.Accepts (s.next R c now st).state e := by
  have hhost : ∀ e, (s.next R c now st).host = .ok e → R.Accepts st e :=
    fun e he => h.accepts e (s.mem_waiting_of_next R he)
  obtain ⟨hstate, -, hwaiting⟩ | ⟨supplied, hstate, -, hwaiting⟩ := s.next_roster R c now st
  · rw [hstate]
    exact ⟨⟨h.state, fun e he => h.accepts e (hwaiting e he)⟩, hhost⟩
  · -- Candidates were asked for again, and the host is accepted still.
    refine ⟨⟨?_, ?_⟩, ?_⟩
    · rw [hstate]
      exact hR.stays_candidates supplied h.state
    · intro e he
      rw [hwaiting] at he
      rw [hstate]
      exact hR.offered h.state he
    · intro e he
      rw [hstate]
      exact hR.candidates supplied h.state (hhost e he)

/-- Where nothing that is asked for logs a refusal, nor does a hand-out. -/
theorem next_quiet (hR : R.TakesBack I) (s : Session) {st : σ} (h : I st) (c : Cancellation)
    (now : Nat) : ∀ ev ∈ (s.next R c now st).events, ¬ ev.TellsRefusal := by
  intro ev hev
  have hpause : ev ∈ s.pauseEvents c now → ¬ ev.TellsRefusal := by
    intro hev
    obtain ⟨attempt, delay, rfl⟩ | rfl := Session.mem_pauseEvents hev
    all_goals simp [Event.tellsRefusal_iff]
  obtain ⟨-, hevents, -⟩ | ⟨supplied, -, hevents, -⟩ := s.next_roster R c now st
  · rw [hevents] at hev
    exact hpause hev
  · rw [hevents] at hev
    rcases List.mem_append.mp hev with hev | hev
    · exact hpause hev
    · exact hR.quiet_candidates supplied h ev hev

end Session

/-- Overheard, a roster takes back what it did before. -/
theorem Roster.TakesBack.overheard {R : Roster σ} {I : σ → Prop} (hR : R.TakesBack I) :
    R.overheard.TakesBack fun st => I st.1 where
  stays_candidates := fun e h => hR.stays_candidates e h
  stays_report := fun e h => hR.stays_report e h
  offered := fun h hc => hR.offered h hc
  candidates := fun e _ h hc => hR.candidates e h hc
  report := fun e _ h hc => hR.report e h hc
  quiet_candidates := fun e h => hR.quiet_candidates e h
  quiet_report := fun e h => hR.quiet_report e h

namespace Job

variable {R : Roster σ} {I : σ → Prop} {T : Transport τ} {j : Job}

/-- A step leaves the session as it was asked, and the providers with at most one report more. -/
theorem step_roster [DomainNames] (R : Roster σ) (T : Transport τ) (j : Job) (p : Progress σ τ) :
    (j.step R T p).progress.session = (j.asked R p).session ∧
      ((j.step R T p).progress.roster = (j.asked R p).state ∨
        ∃ e request, Sendable R j p e request ∧
          (j.step R T p).progress.roster = (R.report e (j.asked R p).state).state) := by
  obtain ⟨q, e, request, hs, hr⟩ | ⟨o, q, hs, hc⟩ := step_cases R T j p
  · rw [hs]
    exact ⟨hr.session, Or.inr ⟨e, request, hr.toSendable, hr.toReported.roster⟩⟩
  · rw [hs]
    cases hc with
    | unsupplied | unnamed | unprepared => exact ⟨rfl, Or.inl rfl⟩
    | answered sent unreported | broken sent unreported =>
      exact ⟨sent.session, Or.inl unreported.roster⟩
    | doubtful sent reported =>
      exact ⟨sent.session, Or.inr ⟨_, _, sent.toSendable, reported.roster⟩⟩

/-- No report was refused so far, and none will be. -/
structure Taken (R : Roster σ) (I : σ → Prop) (p : Progress (σ × List Hearing) τ) : Prop where
  backed : Session.Backed R.overheard (fun st => I st.1) p.session p.roster
  accepted : ∀ call ∈ p.roster.2, call.2 = .ok ()
  quiet : ∀ ev ∈ p.events, ¬ ev.TellsRefusal

variable {p : Progress (σ × List Hearing) τ}

/-- The report on a candidate that was handed out is accepted, and logged without a word of refusal. -/
theorem Taken.aftermath [DomainNames] (hR : R.TakesBack I) (hp : Taken R I p) {e : Endpoint}
    {request : Request} (hs : Sendable R.overheard j p e request) :
    ∀ ev ∈ j.aftermath R.overheard T p e request, ¬ ev.TellsRefusal := by
  obtain ⟨hbacked, hhost⟩ := hp.backed.next hR.overheard j.context.cancellation p.now
  have haccepts : (R.overheard.report e (j.asked R.overheard p).state).value = .ok () :=
    hhost e hs.asked
  have hreport : ∀ ev ∈ j.reportEvents R.overheard p e, ¬ ev.TellsRefusal := by
    intro ev hev
    rw [reportEvents, haccepts] at hev
    rcases List.mem_append.mp hev with hev | hev
    · exact hR.quiet_report e hbacked.state ev hev
    · cases hev
  intro ev hev
  unfold Job.aftermath at hev
  split at hev
  · cases hev
  · exact hreport ev hev
  · simp [List.mem_singleton.mp hev, Event.tellsRefusal_iff]
  · rcases List.mem_append.mp hev with hev | hev
    · exact hreport ev hev
    · simp [List.mem_singleton.mp hev, Event.tellsRefusal_iff]
  · rcases List.mem_append.mp hev with hev | hev
    · exact hreport ev hev
    · simp [List.mem_singleton.mp hev, Event.tellsRefusal_iff]

/-- So every step keeps it that no report is refused. -/
theorem Taken.step [DomainNames] (hR : R.TakesBack I) (hp : Taken R I p) :
    Taken R I (j.step R.overheard T p).progress := by
  obtain ⟨hbacked, hhost⟩ := hp.backed.next hR.overheard j.context.cancellation p.now
  have hasked : ∀ ev ∈ (j.asked R.overheard p).events, ¬ ev.TellsRefusal :=
    Session.next_quiet hR.overheard p.session hp.backed.state _ _
  obtain ⟨hsession, hroster⟩ := step_roster R.overheard T j p
  refine ⟨?_, ?_, ?_⟩
  · rw [hsession]
    rcases hroster with h | ⟨e, request, -, h⟩
    · rw [h]
      exact hbacked
    · rw [h]
      exact hbacked.report hR.overheard e
  · rcases hroster with h | ⟨e, request, hs, h⟩
    · rw [h, calls_asked]
      exact hp.accepted
    · intro call hcall
      rw [h] at hcall
      change call ∈ (j.asked R.overheard p).state.2 ++ [_] at hcall
      rw [calls_asked] at hcall
      rcases List.mem_append.mp hcall with hcall | hcall
      · exact hp.accepted call hcall
      · rw [List.mem_singleton.mp hcall]
        exact hhost e hs.asked
  · intro ev hev
    obtain ⟨e, request, hs, h⟩ | ⟨-, h⟩ := step_events R.overheard T j p
    · simp only [h, List.mem_append, List.mem_cons] at hev
      obtain hev | hev | hev | rfl | hev := hev
      · exact hp.quiet ev hev
      · exact hasked ev hev
      · obtain ⟨status, rfl⟩ | ⟨f, rfl⟩ := Progress.mem_releaseEvents hev
        all_goals simp [Event.tellsRefusal_iff]
      · simp [Event.tellsRefusal_iff]
      · exact hp.aftermath hR hs ev hev
    · simp only [h, List.mem_append] at hev
      obtain hev | hev | hev := hev
      · exact hp.quiet ev hev
      · exact hasked ev hev
      · obtain ⟨f, rfl⟩ := mem_stopEvents hev
        simp [Event.tellsRefusal_iff]

/-- **Where what is offered is taken back, no report of a run is refused.** -/
theorem run_taken [DomainNames] (hR : R.TakesBack I) (T : Transport τ) (j : Job)
    {w : World (σ × List Hearing) τ} (hI : I w.roster.1) (hw : w.roster.2 = []) :
    Taken R I (j.run R.overheard T w).2 := by
  have hquiet : ∀ ev ∈ (R.overheard.candidates j.supplied w.roster).events, ¬ ev.TellsRefusal :=
    hR.overheard.quiet_candidates j.supplied hI
  refine run_keeps (fun _ _ hp => hp.step hR) ⟨?_, ?_, hquiet⟩
  · exact Session.start_backed hR.overheard _ _ hI
  · intro call hcall
    change call ∈ w.roster.2 at hcall
    rw [hw] at hcall
    cases hcall

end Job

/-! ## Whole requests -/

namespace Client

/-- The reports that are overheard are about the candidates to blame, and they are the ones that the
    client keeps. -/
theorem overhear_told [DomainNames] (R : Roster σ) (T : Transport τ) (c : Client) (r : Request)
    (context : Context) (w : World σ τ) :
    let x := c.overhear R T r context w
    x.world.roster.2.map (·.1) = Job.blamed x.trail ∧ x.reports = Job.blamed x.trail := by
  intro x
  obtain ⟨_, hx⟩ | ⟨f, hx⟩ | ⟨supplied, -, -, hx⟩ := execute_cases R.overheard T c r context
    ⟨(w.roster, []), w.transport, w.now, w.stats⟩
  · change x = _ at hx
    rw [hx]
    exact ⟨rfl, rfl⟩
  · change x = _ at hx
    rw [hx]
    exact ⟨rfl, rfl⟩
  · change x = _ at hx
    rw [hx]
    have htold := Job.run_calls R T (c.job r supplied context)
      (w := ⟨(w.roster, []), w.transport, w.now, w.stats⟩) rfl
    exact ⟨htold.calls, htold.reports⟩

/-- Where what is offered is taken back, the reports that are overheard are all accepted, and nothing
    else is logged. -/
theorem overhear_taken [DomainNames] {R : Roster σ} {I : σ → Prop} (hR : R.TakesBack I)
    (T : Transport τ) (c : Client) (r : Request) (context : Context) {w : World σ τ}
    (hw : I w.roster) :
    let x := c.overhear R T r context w
    (∀ call ∈ x.world.roster.2, call.2 = .ok ()) ∧ ∀ ev ∈ x.events, ¬ ev.TellsRefusal := by
  intro x
  have hnone : ∀ {α : Type} {P : α → Prop}, ∀ a ∈ ([] : List α), P a := fun a ha => by cases ha
  obtain ⟨_, hx⟩ | ⟨f, hx⟩ | ⟨supplied, -, -, hx⟩ := execute_cases R.overheard T c r context
    ⟨(w.roster, []), w.transport, w.now, w.stats⟩
  · change x = _ at hx
    rw [hx]
    exact ⟨hnone, hnone⟩
  · change x = _ at hx
    rw [hx]
    exact ⟨hnone, hnone⟩
  · change x = _ at hx
    rw [hx]
    have htaken := Job.run_taken hR T (c.job r supplied context)
      (w := ⟨(w.roster, []), w.transport, w.now, w.stats⟩) hw rfl
    refine ⟨htaken.accepted, ?_⟩
    intro ev hev
    rcases List.mem_append.mp hev with hev | hev
    · exact htaken.quiet ev hev
    · simp [List.mem_singleton.mp hev, Event.tellsRefusal_iff]

/-- **Feedback is exact.**  The providers hear of the candidates whose attempts are to be blamed on
    them, once for each such attempt and in the order in which they were sent, as the session handed
    them out; this includes an attempt that ends the request because it must not be repeated, and
    nothing else.  Trees of the sources of this library accept every such report, so that the log
    never tells of one that was refused. -/
theorem feedback_exact [DomainNames] (T : Transport τ) (c : Client) (r : Request)
    (context : Context) :
    (∀ {σ : Type} (R : Roster σ) (w : World σ τ),
      let run := c.execute R T r context w
      let calls := c.calls R T r context w
      calls.map (·.1) = (run.trail.filter fun a => a.Blames).map (·.candidate) ∧
        run.reports = calls.map (·.1) ∧
        (r.isSecure = false → T.replay w.transport (run.trail.map (·.request)) =
          (run.trail.map (·.outcome), run.world.transport)) ∧
        ∀ pre a post, run.trail = pre ++ a :: post → ∃ supplied m, r.endpoint = .ok supplied ∧
          let j := c.job r supplied context
          j.Reaches R T (j.begin R w) m ∧ m.trail = pre ∧ (j.asked R m).host = .ok a.candidate) ∧
    ∀ w : World Provider τ, w.roster.Unscripted →
      (∀ call ∈ c.calls Provider.roster T r context w, call.2 = .ok ()) ∧
        ∀ ev ∈ (c.execute Provider.roster T r context w).events,
          ev.message ≠ "Failure feedback rejected" := by
  refine ⟨?_, ?_⟩
  · intro σ R w run calls
    have hrun : run = (c.overhear R T r context w).mapRoster Prod.fst :=
      (overhear_mapRoster R T c r context w).symm
    obtain ⟨hcalls, hreports⟩ := overhear_told R T c r context w
    refine ⟨?_, ?_, ?_, ?_⟩
    · rw [hrun]
      exact hcalls
    · rw [hrun]
      exact hreports.trans hcalls.symm
    · exact execute_replayed R T c context w
    · intro pre a post ht
      obtain ⟨supplied, m, hend, hm, htrail⟩ := execute_before R T c r context w ht
      exact ⟨supplied, m, hend, hm.reached, htrail, hm.asked⟩
  · intro w hw
    obtain ⟨haccepted, hquiet⟩ := overhear_taken Provider.roster_takesBack T c r context hw
    refine ⟨haccepted, ?_⟩
    rw [← overhear_mapRoster]
    exact hquiet

/-- In the rehearsal of a POST request, the first two candidates are reported, the second of them at
    the end. -/
example : (Rehearsal.client.calls Provider.roster Script.transport (Rehearsal.request "POST") .empty
    Rehearsal.world).map (·.1.host) = ["::1", "::2"] := by
  decide +kernel

end Client

end Failover
