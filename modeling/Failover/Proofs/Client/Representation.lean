import Failover.Client.Execution
/-!
# Rosters that answer alike

A client sees nothing of the state of its providers but their answers.

* `Roster.Shows` : a roster answers as another one does at the state that `f` shows;
* `Session.next_mapState`, `Job.step_mapRoster` : a hand-out and a step, seen through `f`;
* `Client.execute_mapRoster` : so whole requests look the same as well.
-/

set_option autoImplicit false

namespace Failover

variable {σ σ' τ : Type}

/-- The roster answers as `R` does at the state that `f` shows. -/
structure Roster.Shows (R' : Roster σ') (f : σ' → σ) (R : Roster σ) : Prop where
  candidates : ∀ (e : Endpoint) (st : σ'), (R'.candidates e st).mapState f = R.candidates e (f st)
  supports : ∀ (st : σ') (e : Endpoint), R'.supports st e = R.supports (f st) e
  report : ∀ (e : Endpoint) (st : σ'), (R'.report e st).mapState f = R.report e (f st)

/-! ## Sessions -/

/-- The hand-out, with the state of the roster seen through `f`. -/
def Handout.mapState (f : σ' → σ) (h : Handout σ') : Handout σ :=
  ⟨h.host, h.session, h.now, f h.state, h.events⟩

section Session

variable {R' : Roster σ'} {f : σ' → σ} {R : Roster σ}

theorem Session.start_mapState (hR : R'.Shows f R) (policy : Policy) (supplied : Endpoint)
    (st : σ') : (start R' policy supplied st).mapState f = start R policy supplied (f st) := by
  unfold start
  rw [← hR.candidates]
  rfl

theorem Rounds.refill_mapState (hR : R'.Shows f R) (r : Rounds) (st : σ') :
    (refill R' r st).mapState f = refill R r (f st) := by
  unfold refill
  split
  · rw [← hR.candidates]
    rfl
  · rfl

/-- A hand-out is the same, seen through `f`. -/
theorem Session.next_mapState (hR : R'.Shows f R) (s : Session) (c : Cancellation) (now : Nat)
    (st : σ') : (s.next R' c now st).mapState f = s.next R c now (f st) := by
  cases s with
  | pass p => rfl
  | rounds r =>
    show (r.next R' c now st).mapState f = r.next R c now (f st)
    unfold Rounds.next
    split
    · rfl
    · simp only []
      split
      · rfl
      · rw [← Rounds.refill_mapState hR]
        rfl

end Session

/-! ## Requests on their way -/

/-- Where a request stands, with the state of the roster seen through `f`. -/
def Progress.mapRoster (f : σ' → σ) (p : Progress σ' τ) : Progress σ τ :=
  ⟨p.session, f p.roster, p.transport, p.now, p.response, p.fault, p.tally, p.trail, p.reports,
    p.events⟩

/-- The same after one more step. -/
def Turn.mapRoster (f : σ' → σ) : Turn σ' τ → Turn σ τ
  | .over outcome p => .over outcome (p.mapRoster f)
  | .on p => .on (p.mapRoster f)

section Requests

variable {R' : Roster σ'} {f : σ' → σ} {R : Roster σ}

theorem Progress.release_mapRoster (p : Progress σ' τ) (shortName : String) :
    (p.release shortName).mapRoster f = (p.mapRoster f).release shortName :=
  rfl

theorem Progress.report_mapRoster (hR : R'.Shows f R) (shortName : String) (e : Endpoint)
    (p : Progress σ' τ) :
    (p.report R' shortName e).mapRoster f = (p.mapRoster f).report R shortName e := by
  have hstate : R.report e (p.mapRoster f).roster = (R'.report e p.roster).mapState f :=
    (hR.report e p.roster).symm
  unfold report
  rw [hstate]
  cases h : (R'.report e p.roster).value <;> simp [mapRoster, note, h, Reply.mapState]

theorem Job.settle_mapRoster (hR : R'.Shows f R) (j : Job) (a : Attempt) (p : Progress σ' τ) :
    (j.settle R' a p).mapRoster f = j.settle R a (p.mapRoster f) := by
  have hreport : (p.countFailure.report R' j.client.shortName a.candidate).mapRoster f =
      (p.mapRoster f).countFailure.report R j.client.shortName a.candidate :=
    Progress.report_mapRoster hR _ _ p.countFailure
  unfold settle
  split
  · rfl
  · simp only [← hreport]
    rfl
  · rfl
  · simp only [← hreport]
    rfl
  · simp only [← hreport]
    rfl

/-- A step is the same, seen through `f`. -/
theorem Job.step_mapRoster [DomainNames] (hR : R'.Shows f R) (T : Transport τ) (j : Job)
    (p : Progress σ' τ) : (j.step R' T p).mapRoster f = j.step R T (p.mapRoster f) := by
  have hnext : (p.mapRoster f).session.next R j.context.cancellation (p.mapRoster f).now
      (p.mapRoster f).roster =
        (p.session.next R' j.context.cancellation p.now p.roster).mapState f :=
    (Session.next_mapState hR _ _ _ _).symm
  unfold step
  rw [hnext]
  generalize p.session.next R' j.context.cancellation p.now p.roster = h
  have hhanded : (p.mapRoster f).handedOut (h.mapState f) = (p.handedOut h).mapRoster f := rfl
  have hhost : (h.mapState f).host = h.host := rfl
  simp only [hhanded, hhost]
  cases h.host with
  | error g => rfl
  | ok candidate =>
    simp only []
    split
    · rfl
    · cases j.client.prepare j.request candidate j.context with
      | error g => rfl
      | ok request =>
        simp only [← Progress.release_mapRoster]
        exact settle_mapRoster hR j _ _

theorem Job.loop_mapRoster [DomainNames] (hR : R'.Shows f R) (T : Transport τ) (j : Job) :
    ∀ (n : Nat) (p : Progress σ' τ),
      ((j.loop R' T n p).1, (j.loop R' T n p).2.mapRoster f) = j.loop R T n (p.mapRoster f)
  | 0, p => rfl
  | n + 1, p => by
    have hmay : (p.mapRoster f).session.mayContinue j.context.cancellation (p.mapRoster f).now =
        p.session.mayContinue j.context.cancellation p.now := rfl
    unfold loop
    rw [hmay, ← step_mapRoster hR]
    split
    · rcases j.step R' T p with ⟨outcome, q⟩ | q
      · rfl
      · exact loop_mapRoster hR T j n q
    · rfl

end Requests

/-! ## Whole requests -/

/-- The state outside a client, with the state of the roster seen through `f`. -/
def World.mapRoster (f : σ' → σ) (w : World σ' τ) : World σ τ :=
  ⟨f w.roster, w.transport, w.now, w.stats⟩

/-- The same of a whole request. -/
def Execution.mapRoster (f : σ' → σ) (x : Execution σ' τ) : Execution σ τ :=
  ⟨x.outcome, x.world.mapRoster f, x.trail, x.reports, x.tally, x.events⟩

section Whole

variable {R' : Roster σ'} {f : σ' → σ} {R : Roster σ}

theorem Job.begin_mapRoster (hR : R'.Shows f R) (j : Job) (w : World σ' τ) :
    (j.begin R' w).mapRoster f = j.begin R (w.mapRoster f) := by
  have hstart : Session.start R j.client.policy j.supplied (w.mapRoster f).roster =
      (Session.start R' j.client.policy j.supplied w.roster).mapState f :=
    (Session.start_mapState hR _ _ _).symm
  unfold begin
  rw [hstart]
  rfl

theorem Job.run_mapRoster [DomainNames] (hR : R'.Shows f R) (T : Transport τ) (j : Job)
    (w : World σ' τ) :
    ((j.run R' T w).1, (j.run R' T w).2.mapRoster f) = j.run R T (w.mapRoster f) := by
  unfold run
  rw [loop_mapRoster hR, ← begin_mapRoster hR]
  rfl

/-- **Nothing but the answers of its providers matters to a client.**  A request is executed the same
    with a roster that answers alike. -/
theorem Client.execute_mapRoster [DomainNames] (hR : R'.Shows f R) (T : Transport τ) (c : Client)
    (r : Request) (context : Context) (w : World σ' τ) :
    (c.execute R' T r context w).mapRoster f = c.execute R T r context (w.mapRoster f) := by
  unfold execute
  split
  · rfl
  · cases r.endpoint with
    | error g => rfl
    | ok supplied =>
      have hsup : R'.supports w.roster supplied = R.supports (w.mapRoster f).roster supplied :=
        hR.supports _ _
      simp only [hsup]
      split
      · unfold failOver
        rw [← Job.run_mapRoster hR]
        rfl
      · rfl

end Whole

end Failover
