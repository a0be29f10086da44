import Mathlib.Data.List.Basic
import Failover.Proofs.Client.Run
import Failover.Proofs.Url.Idna
/-!
# Writes of which nobody knows whether they happened

An answer that does not come in time leaves it open whether the request had effect.  What a client
makes of that depends on the method and on whether repeating was asked for.

* `Attempt.LeftDoubt` : the attempt ended in such a way;
* `Job.doubtful_last` : if the request must not be repeated, that attempt is the last;
* `Job.Resumed`, `Job.resumed_of_doubt` : if it may be repeated, the request goes on as after any
  other fault;
* `Client.uncertain_write_not_repeated` : both of it, for every request that does not go over TLS.
-/

set_option autoImplicit false

namespace Failover

variable {σ τ : Type}

/-- The attempt failed, and the other side may have done the work. -/
def Attempt.LeftDoubt (a : Attempt) : Prop := ∃ f, a.outcome = .error f ∧ f.LeavesDoubt

instance (a : Attempt) : Decidable a.LeftDoubt :=
  match h : a.outcome with
  | .ok _ => .isFalse fun ⟨_, hf, _⟩ => by rw [h] at hf; cases hf
  | .error f =>
    if hd : f.LeavesDoubt then .isTrue ⟨f, h, hd⟩
    else .isFalse fun ⟨f', hf, hd'⟩ => by rw [h] at hf; cases hf; exact hd hd'

namespace Job

variable {R : Roster σ} {T : Transport τ} {j : Job} {p q : Progress σ τ}
  {o : Except Failure Response} {pre post : List Attempt} {a : Attempt} {f : Fault}

/-! ## Requests that must not be repeated -/

/-- An attempt that leaves doubt on a request that must not be repeated does not leave it open. -/
theorem not_leavesOpen_of_once (ho : a.outcome = .error f)
    (honce : j.client.mayRepeat j.request.method f = false) : ¬ j.LeavesOpen a := by
  rintro (⟨r, hr, _⟩ | ⟨f', hf, _, hm⟩)
  · cases ho.symm.trans hr
  · cases ho.symm.trans hf
    rw [honce] at hm
    cases hm

/-- **An attempt that leaves doubt on a request that must not be repeated is the last**, it is
    reported, and its fault is the result. -/
theorem doubtful_last [DomainNames] (hreach : Reaches R T j p q) (hp : p.trail = [])
    {q' : Progress σ τ} (hends : Ends R T j q o q') (ht : q'.trail = pre ++ a :: post)
    (ho : a.outcome = .error f) (hd : f.LeavesDoubt)
    (honce : j.client.mayRepeat j.request.method f = false) :
    post = [] ∧ (∃ earlier, q'.reports = earlier ++ [a.candidate]) ∧
      (∃ st, q'.roster = (R.report a.candidate st).state) ∧ o = .error (.transport f) := by
  have hclosed := not_leavesOpen_of_once ho honce
  obtain ⟨more, hq, hopen⟩ := hreach.trail
  rw [hp, List.nil_append] at hq
  have hnot : a ∉ q.trail := fun ha => hclosed (hopen a (hq ▸ ha))
  have hsame : q'.trail ≠ q.trail := by
    intro h
    exact hnot (by rw [← h, ht]; simp)
  have hlast : ∀ {e : Endpoint} {request : Request}, Sent R T j q q' e request →
      post = [] ∧ attemptAt R T j q e request = a := by
    intro e request sent
    rw [sent.trail] at ht
    obtain ⟨rest, _, hinit⟩ | ⟨hpost, _, ha⟩ := split_concat ht
    · exact absurd (by rw [hinit]; simp) hnot
    · exact ⟨hpost, ha⟩
  cases hends with
  | spent => exact absurd rfl hsame
  | closed _ _ last =>
    cases last with
    | unsupplied | unnamed | unprepared => exact absurd rfl hsame
    | answered sent _ _ outcome _ =>
      obtain ⟨-, rfl⟩ := hlast sent
      cases outcome.symm.trans ho
    | broken sent _ _ outcome other =>
      obtain ⟨-, rfl⟩ := hlast sent
      cases outcome.symm.trans ho
      rw [Fault.isIo_of_leavesDoubt hd] at other
      cases other
    | doubtful sent reported _ outcome _ _ =>
      obtain ⟨hpost, rfl⟩ := hlast sent
      cases outcome.symm.trans ho
      exact ⟨hpost, ⟨_, reported.reports⟩, ⟨_, reported.roster⟩, rfl⟩

/-! ## Requests that may be repeated -/

/-- What follows a fault `f` that leaves the request open at `m`: the attempts after it, and the
    result. -/
inductive Resumed [DomainNames] (R : Roster σ) (j : Job) (m : Progress σ τ) (f : Fault) :
    List Attempt → Except Failure Response → Prop where
  | spent (h : m.session.mayContinue j.context.cancellation m.now = false) :
    Resumed R j m f [] (m.response.elim (.error (.transport f)) .ok)
  | unnamed {e : Endpoint} (h : m.session.mayContinue j.context.cancellation m.now = true)
    (asked : (j.asked R m).host = .ok e) (unnamed : e.host.isEmpty = true) :
    Resumed R j m f [] (.error (.invariantViolation (.emptyHost j.supplied)))
  | unprepared {e : Endpoint} {cause : BadRequest}
    (h : m.session.mayContinue j.context.cancellation m.now = true)
    (asked : (j.asked R m).host = .ok e) (named : e.host.isEmpty = false)
    (unprepared : j.client.prepare j.request e j.context = .error (.invalidRequest cause)) :
    Resumed R j m f [] (.error (.invalidRequest cause))
  | tried {b : Attempt} {rest : List Attempt} {o : Except Failure Response}
    (h : m.session.mayContinue j.context.cancellation m.now = true)
    (asked : (j.asked R m).host = .ok b.candidate) : Resumed R j m f (b :: rest) o

/-- From a point where a fault was kept, a run goes on as the session has it. -/
theorem resumed [DomainNames] (hreach : Reaches R T j p q) {q' : Progress σ τ}
    (hends : Ends R T j q o q') (hf : p.fault = some f) (ht : q'.trail = p.trail ++ post) :
    Resumed R j p f post o := by
  obtain rfl | ⟨b, hstep, hrest⟩ := Relation.ReflTransGen.cases_head hreach
  · -- The next step is the end.
    have hnone : q'.trail = p.trail → post = [] := by
      intro h
      simpa [h] using ht
    have hone : ∀ x, q'.trail = p.trail ++ [x] → post = [x] := by
      intro x h
      exact (List.append_cancel_left (h.symm.trans ht)).symm
    cases hends with
    | spent h =>
      rw [hnone rfl]
      have hconclusion : p.conclusion .noAttempts =
          p.response.elim (.error (.transport f)) .ok := by
        unfold Progress.conclusion
        rw [hf]
        cases p.response <;> rfl
      rw [hconclusion]
      exact .spent h
    | closed h asked last =>
      cases last with
      | unsupplied none => cases asked.symm.trans none
      | unnamed asked unnamed =>
        rw [hnone rfl]
        exact .unnamed h asked unnamed
      | unprepared asked named unprepared =>
        rw [hnone rfl]
        exact .unprepared h asked named unprepared
      | answered sent | broken sent | doubtful sent =>
        rw [hone _ sent.trail]
        exact .tried h sent.asked
  · -- One more attempt left the request open.
    obtain ⟨e, request, hr⟩ := hstep.retried
    obtain ⟨more, hq, _⟩ := Reaches.trail hrest
    obtain ⟨last, hq'⟩ : ∃ last, q'.trail = q.trail ++ last := by
      rcases hends.trail with h | ⟨_, _, sent, _⟩
      · exact ⟨[], by rw [h, List.append_nil]⟩
      · exact ⟨_, sent.trail⟩
    have hpost : post = attemptAt R T j p e request :: (more ++ last) := by
      rw [hq', hq, hr.trail] at ht
      simpa using ht.symm
    rw [hpost]
    exact .tried hstep.1 hr.asked

/-- **A fault that leaves doubt on a request that may be repeated ends nothing by itself.**  The run
    passes a point right behind the attempt, and goes on from there as the session has it. -/
theorem resumed_of_doubt [DomainNames] (hreach : Reaches R T j p q) (hp : p.trail = [])
    {q' : Progress σ τ} (hends : Ends R T j q o q') (ht : q'.trail = pre ++ a :: post)
    (ho : a.outcome = .error f) (hd : f.LeavesDoubt)
    (hagain : j.client.mayRepeat j.request.method f = true) :
    ∃ m, Reaches R T j p m ∧ m.trail = pre ++ [a] ∧ Resumed R j m f post o := by
  have hopen : j.LeavesOpen a := Or.inr ⟨f, ho, Fault.isIo_of_leavesDoubt hd, hagain⟩
  -- The attempt is not the one that ended the run, so it lies on the way to the end.
  obtain ⟨rest, hq⟩ : ∃ rest, q.trail = pre ++ a :: rest := by
    rcases hends.trail with h | ⟨e, request, sent, hclosed⟩
    · exact ⟨post, h ▸ ht⟩
    · rw [sent.trail] at ht
      obtain ⟨rest, _, hinit⟩ | ⟨_, _, rfl⟩ := split_concat ht
      · exact ⟨rest, hinit⟩
      · exact absurd hopen hclosed
  obtain ⟨m, hpm, hmq, hm, hfault⟩ := hreach.behind (by rw [hp, List.nil_append]; exact hq)
  rw [hp, List.nil_append] at hm
  refine ⟨m, hpm, hm, resumed hmq hends (hfault f ho) ?_⟩
  rw [ht, hm, List.append_assoc]
  rfl

end Job

/-! ## The guarantee -/

namespace Client

/-- **No write with unknown effect is ever repeated.**  Without the opt-in, an attempt of a POST or
    PATCH request that leaves doubt is the last request that the transport is sent, the providers
    hear of its candidate, and its fault is the result, whatever answers came before; so there is
    at most one.  With the opt-in, and for all other methods, such an attempt ends nothing by
    itself: where the session may continue, its next host is tried. -/
theorem uncertain_write_not_repeated [DomainNames] (R : Roster σ) (T : Transport τ) (c : Client)
    (r : Request) (context : Context) (w : World σ τ) (hplain : r.isSecure = false) :
    let run := c.execute R T r context w
    T.replay w.transport (run.trail.map (·.request)) =
        (run.trail.map (·.outcome), run.world.transport) ∧
      (c.retryNonIdempotent = false → r.method.name = "POST" ∨ r.method.name = "PATCH" →
        (∀ pre a post f, run.trail = pre ++ a :: post → a.outcome = .error f → f.LeavesDoubt →
          post = [] ∧ (∃ earlier, run.reports = earlier ++ [a.candidate]) ∧
            (∃ st, run.world.roster = (R.report a.candidate st).state) ∧
            run.outcome = .error (.transport f)) ∧
        (run.trail.countP fun a => a.LeftDoubt) ≤ 1) ∧
      (c.retryNonIdempotent = true ∨ r.method.name ≠ "POST" ∧ r.method.name ≠ "PATCH" →
        ∀ pre a post f, run.trail = pre ++ a :: post → a.outcome = .error f → f.LeavesDoubt →
          ∃ supplied m, r.endpoint = .ok supplied ∧
            let j := c.job r supplied context
            j.Reaches R T (j.begin R w) m ∧ m.trail = pre ++ [a] ∧
              j.Resumed R m f post run.outcome) := by
  intro run
  obtain ⟨hs, _⟩ | ⟨f, hrun⟩ | ⟨supplied, hend, -, hrun⟩ := execute_cases R T c r context w
  · rw [hplain] at hs
    cases hs
  · -- A request that is refused makes no attempts.
    change run = _ at hrun
    clear_value run
    subst hrun
    have hnowhere : ∀ {pre : List Attempt} {a post}, [] ≠ pre ++ a :: post := by
      intro pre a post
      simp
    refine ⟨rfl, fun _ _ => ⟨fun _ _ _ _ h => absurd h hnowhere, Nat.zero_le 1⟩, ?_⟩
    intro _ _ _ _ _ h
    exact absurd h hnowhere
  · obtain ⟨q, hreach, hends⟩ := Job.run_ends R T (c.job r supplied context) w
    change run = _ at hrun
    clear_value run
    subst hrun
    refine ⟨Job.run_replayed R T (c.job r supplied context) w, ?_, ?_⟩
    · intro hopt hm
      have honce : ∀ {f : Fault}, f.LeavesDoubt → c.mayRepeat r.method f = false := by
        intro f hd
        exact (mayRepeat_eq_false_iff c r.method f).mpr ⟨hd, hm, hopt⟩
      refine ⟨?_, countP_le_one_of_last ?_⟩
      · intro pre a post f ht ho hd
        exact Job.doubtful_last hreach rfl hends ht ho hd (honce hd)
      · intro pre a post ht ha
        obtain ⟨f, ho, hd⟩ := of_decide_eq_true ha
        exact (Job.doubtful_last hreach rfl hends ht ho hd (honce hd)).1
    · intro hm pre a post f ht ho hd
      have hagain : c.mayRepeat r.method f = true := by
        rw [← Bool.not_eq_false, mayRepeat_eq_false_iff]
        rintro ⟨_, hwrite, hopt⟩
        rcases hm with hm | ⟨hpost, hpatch⟩
        · rw [hopt] at hm
          cases hm
        · exact hwrite.elim hpost hpatch
      obtain ⟨m, hpm, hbehind, hresumed⟩ :=
        Job.resumed_of_doubt hreach rfl hends ht ho hd hagain
      exact ⟨supplied, m, hend, hpm, hbehind, hresumed⟩

/-- A late answer ends the rehearsal of a POST request, although a candidate is left. -/
theorem rehearsed_write_not_repeated :
    (Rehearsal.run "POST").trail.map (·.candidate.host) = ["::1", "::2"] ∧
      ∃ f, (Rehearsal.run "POST").outcome = .error (.transport f) ∧ f.LeavesDoubt := by
  have hguarantee := uncertain_write_not_repeated Provider.roster Script.transport Rehearsal.client
    (Rehearsal.request "POST") .empty Rehearsal.world (by decide)
  have hdoubt : ((Rehearsal.run "POST").trail.map fun a => decide a.LeftDoubt) = [false, true] := by
    decide +kernel
  have htwo : (Rehearsal.run "POST").trail.length = 2 := by decide +kernel
  obtain ⟨first, last, htrail⟩ := List.length_eq_two.mp htwo
  rw [htrail] at hdoubt
  obtain ⟨f, ho, hd⟩ : last.LeftDoubt := by
    simp only [List.map_cons, List.map_nil, List.cons.injEq] at hdoubt
    exact of_decide_eq_true hdoubt.2.1
  have hlast := (hguarantee.2.1 rfl (Or.inl rfl)).1 [first] last [] f htrail ho hd
  exact ⟨by decide +kernel, f, hlast.2.2.2, hd⟩

/-- With another method it goes on to that candidate. -/
example : (Rehearsal.run "PUT").trail.map (·.candidate.host) = ["::1", "::2", "::3"] := by
  decide +kernel

end Client

end Failover
