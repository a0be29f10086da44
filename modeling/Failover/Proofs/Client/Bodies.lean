import Failover.Proofs.Client.Outcome
import Mathlib.Data.List.Induction
/-!
# Bodies along a run

A request holds at most one answer with a live body.

* `Attempt.finds` : the answers that came, as an attempt finds them when its request is sent.
  `Attempt.leftBy`: the same after a whole trail;
* `Attempt.Holding` : each attempt holds the answer before it, drained.
  `Attempt.Holding.finds_leftBy`: so all answers are drained when the next request is sent;
* `Job.run_holding` : this is true of every run;
* `Attempt.answered_of_lastAnswer` : the answer that is kept is that of one attempt, behind which only
  faults came;
* `Client.bodies_settled` : what is true of all answers at every send, and of the one that is
  returned.
-/

set_option autoImplicit false

namespace Failover

variable {σ τ : Type}

/-- The answer to an attempt, if one came. -/
def Attempt.answer? (a : Attempt) : Option Response := a.fate.answer?

namespace Attempt

/-- The answers that came, as an attempt finds them when its request is sent: the last of them is
    the one that is held meanwhile. -/
def finds (earlier : List Response) (a : Attempt) : List Response :=
  match a.held with
  | some r => earlier.dropLast ++ [r]
  | none => earlier

/-- The answers to attempts, each as the attempts behind it left it. -/
def leftBy (trail : List Attempt) : List Response :=
  trail.foldl (fun earlier a => a.finds earlier ++ a.answer?.toList) []

/-- The answers to attempts as they came. -/
def answers (trail : List Attempt) : List Response := trail.filterMap answer?

/-- Each attempt holds the answer before it, drained. -/
def Holding (trail : List Attempt) : Prop :=
  ∀ pre a post, trail = pre ++ a :: post → a.held = (answers pre).getLast?.map (·.drain.1)

theorem answers_concat (trail : List Attempt) (a : Attempt) :
    answers (trail ++ [a]) = answers trail ++ a.answer?.toList := by
  cases h : a.answer? <;> simp [answers, h]

theorem leftBy_concat (trail : List Attempt) (a : Attempt) :
    leftBy (trail ++ [a]) = a.finds (leftBy trail) ++ a.answer?.toList := by
  simp [leftBy]

theorem Holding.of_append {trail more : List Attempt} (h : Holding (trail ++ more)) :
    Holding trail := by
  intro pre b post ht
  refine h pre b (post ++ more) ?_
  rw [ht, List.append_assoc, List.cons_append]

/-- An attempt that holds the last answer drained finds it so, and the others as they were left. -/
theorem finds_of_held {a : Attempt} {earlier came : List Response}
    (hheld : a.held = came.getLast?.map (·.drain.1))
    (hsame : earlier.dropLast = came.dropLast.map (·.drain.1)) (hnone : came = [] → earlier = []) :
    a.finds earlier = came.map (·.drain.1) := by
  rcases List.eq_nil_or_concat came with rfl | ⟨others, r, rfl⟩
  · have hfree : a.held = none := hheld
    rw [finds, hfree, hnone rfl]
    rfl
  · rw [List.concat_eq_append] at hheld hsame ⊢
    rw [List.getLast?_concat] at hheld
    rw [List.dropLast_concat] at hsame
    have hdrained : a.held = some r.drain.1 := hheld
    rw [finds, hdrained, hsame, List.map_append]
    rfl

/-- **All answers are drained when the next request is sent.**  After each attempt at most its own
    answer is not drained yet, and the next attempt holds that one. -/
theorem Holding.finds_leftBy {trail : List Attempt} {a : Attempt} (h : Holding (trail ++ [a])) :
    a.finds (leftBy trail) = (answers trail).map (·.drain.1) := by
  induction trail using List.reverseRecOn generalizing a with
  | nil =>
    have hheld : a.held = none := h [] a [] rfl
    rw [finds, hheld]
    rfl
  | append_singleton before b ih =>
    have hbefore : b.finds (leftBy before) = (answers before).map (·.drain.1) := ih h.of_append
    have hheld : a.held = (answers (before ++ [b])).getLast?.map (·.drain.1) := h _ a [] rfl
    refine finds_of_held hheld ?_ ?_
    · rw [leftBy_concat, answers_concat, hbefore]
      cases b.answer? <;> simp
    · rw [leftBy_concat, answers_concat, hbefore]
      cases b.answer? <;> simp

/-- The answer that is kept is that of one attempt, behind which only faults came.  It was drained if
    there are any attempts behind it. -/
theorem answered_of_lastAnswer {trail : List Attempt} {r : Response}
    (h : Fate.lastAnswer (trail.map (·.fate)) = some r) :
    ∃ pre a later answer, trail = pre ++ a :: later ∧ a.outcome = .ok answer ∧
      (∀ b ∈ later, ∃ f, b.outcome = .error f) ∧ (later = [] → r = answer) ∧
      (later ≠ [] → r = answer.drain.1) := by
  induction trail using List.reverseRecOn generalizing r with
  | nil => cases h
  | append_singleton before b ih =>
    have hfates : (before ++ [b]).map (·.fate) =
        before.map (·.fate) ++ [.sent b.request b.outcome] := List.map_append
    rw [hfates] at h
    cases hb : b.outcome with
    | ok answer =>
      rw [hb, Fate.lastAnswer_concat_ok] at h
      cases h
      exact ⟨before, b, [], r, rfl, hb, by simp, fun _ => rfl, fun hne => absurd rfl hne⟩
    | error f =>
      rw [hb, Fate.lastAnswer_concat_error] at h
      obtain ⟨kept, hkept, hr⟩ := Option.map_eq_some_iff.mp h
      obtain ⟨pre, a, later, answer, rfl, hanswer, hfaults, hfirst, hagain⟩ := ih hkept
      refine ⟨pre, a, later ++ [b], answer, by simp, hanswer, ?_, by simp, ?_⟩
      · intro d hd
        rcases List.mem_append.mp hd with hd | hd
        · exact hfaults d hd
        · rw [List.mem_singleton.mp hd]
          exact ⟨f, hb⟩
      · intro _
        rw [← hr]
        by_cases hlater : later = []
        · rw [hfirst hlater]
        · rw [hagain hlater, Response.drain_drain]

end Attempt

/-- Draining the most recent answer once more forgets whether it was drained before. -/
theorem Fate.lastAnswer_drained (trail : List Attempt) :
    (Fate.lastAnswer (trail.map (·.fate))).map (·.drain.1) =
      (Attempt.answers trail).getLast?.map (·.drain.1) := by
  have hanswers : (trail.map (·.fate)).filterMap Fate.answer? = Attempt.answers trail :=
    List.filterMap_map
  rw [Fate.lastAnswer, hanswers, Option.map_map]
  congr 1
  funext r
  show (ite _ r r.drain.1).drain.1 = r.drain.1
  split
  · rfl
  · exact r.drain_drain

namespace Job

variable {R : Roster σ} {T : Transport τ} {j : Job}

/-- **Each attempt of a run holds the answer before it, drained**, however many faults came since. -/
theorem run_holding [DomainNames] (R : Roster σ) (T : Transport τ) (j : Job) (w : World σ τ) :
    Attempt.Holding (j.run R T w).2.trail := by
  intro pre a post ht
  obtain ⟨m, hm, rfl⟩ := run_before R T j w ht
  have hheld : a.held = m.response.map (·.drain.1) := by rw [hm.attempt, attemptAt]
  rw [hheld, hm.reached.kept.response, Fate.lastAnswer_drained]

/-- A run that returns an answer returns that of one of its attempts, behind which only faults
    came. -/
theorem run_answered [DomainNames] {w : World σ τ} {r : Response} (h : (j.run R T w).1 = .ok r) :
    ∃ pre a later answer, (j.run R T w).2.trail = pre ++ a :: later ∧ a.outcome = .ok answer ∧
      (∀ b ∈ later, ∃ f, b.outcome = .error f) ∧ (later = [] → r = answer) ∧
      (later ≠ [] → r = answer.drain.1) := by
  obtain ⟨q, hreach, hends⟩ := run_ends R T j w
  generalize j.run R T w = run at h hends ⊢
  obtain ⟨o, q'⟩ := run
  change o = .ok r at h
  change Ends R T j q o q' at hends
  subst h
  generalize ho : Except.ok r = o at hends
  cases hends with
  | spent =>
    have hresponse := Progress.response_of_conclusion ho.symm
    rw [hreach.kept.response] at hresponse
    exact Attempt.answered_of_lastAnswer hresponse
  | closed _ asked last =>
    cases last with
    | unsupplied none => cases asked.symm.trans none
    | unnamed | unprepared | broken | doubtful => cases ho
    | answered sent _ _ outcome _ =>
      cases ho
      exact ⟨q.trail, _, [], r, sent.trail, outcome, by simp, fun _ => rfl, fun hne => absurd rfl hne⟩

end Job

namespace Client

/-- **At most one live body per request.**  A request over TLS is sent once, and what is returned is
    what that brings.  The trail of any other is all that the transport is sent, and:

    * at every send, all answers that came before have been drained, however draining them ended, and
      however many faults came in between: none of them streams, and the last of them is the one
      that is held;
    * an answer that is returned is that of one of the attempts.  That of the last attempt is returned
      as it came.  Any other was drained, so that it does not stream and only its body is not what
      it was, and there were nothing but faults since. -/
theorem bodies_settled [DomainNames] (R : Roster σ) (T : Transport τ) (c : Client) (r : Request)
    (context : Context) (w : World σ τ) :
    let run := c.execute R T r context w
    (r.isSecure = true → run.trail = [] ∧
      ∀ answer, run.outcome = .ok answer ↔ (T.send r w.transport).outcome = .ok answer) ∧
    (r.isSecure = false →
      T.replay w.transport (run.trail.map (·.request)) =
        (run.trail.map (·.outcome), run.world.transport) ∧
      (∀ pre a post, run.trail = pre ++ a :: post →
        a.finds (Attempt.leftBy pre) = (Attempt.answers pre).map (·.drain.1) ∧
          (∀ found ∈ a.finds (Attempt.leftBy pre), found.isStreaming = false) ∧
          a.held = (a.finds (Attempt.leftBy pre)).getLast?) ∧
      ∀ returned, run.outcome = .ok returned →
        ∃ pre a later answer, run.trail = pre ++ a :: later ∧ a.outcome = .ok answer ∧
          (∀ b ∈ later, ∃ f, b.outcome = .error f) ∧
          (later = [] → returned = answer) ∧
          (later ≠ [] → returned = answer.drain.1 ∧ returned.isStreaming = false ∧
            returned.status = answer.status ∧ returned.headers = answer.headers)) := by
  intro run
  refine ⟨?_, ?_⟩
  · intro hsecure
    have hrun : run = sendDirectly T r w := by
      show c.execute R T r context w = _
      simp only [execute, hsecure, if_true]
    rw [hrun]
    refine ⟨rfl, ?_⟩
    intro answer
    cases ho : (T.send r w.transport).outcome <;> simp [sendDirectly, ho]
  · intro hplain
    obtain ⟨hs, -⟩ | ⟨f, hrun⟩ | ⟨supplied, -, -, hrun⟩ := execute_cases R T c r context w
    · rw [hplain] at hs
      cases hs
    · change run = _ at hrun
      rw [hrun]
      refine ⟨rfl, ?_, ?_⟩
      · intro pre a post ht
        simp [Execution.refused] at ht
      · intro returned h
        cases h
    · change run = _ at hrun
      rw [hrun]
      have hholding := Job.run_holding R T (c.job r supplied context) w
      refine ⟨Job.run_replayed R T (c.job r supplied context) w, ?_, ?_⟩
      · intro pre a post ht
        have hwhole : Attempt.Holding ((pre ++ [a]) ++ post) := by
          rw [List.append_assoc, List.singleton_append, ← ht]
          exact hholding
        have hfound := hwhole.of_append.finds_leftBy
        refine ⟨hfound, ?_, ?_⟩
        · intro found hin
          rw [hfound] at hin
          obtain ⟨answer, -, rfl⟩ := List.mem_map.mp hin
          exact answer.drain_isStreaming
        · rw [hfound, List.getLast?_map]
          exact hholding pre a post ht
      · intro returned h
        obtain ⟨pre, a, later, answer, htrail, hanswer, hfaults, hlast, hagain⟩ :=
          Job.run_answered h
        refine ⟨pre, a, later, answer, htrail, hanswer, hfaults, hlast, ?_⟩
        intro hlater
        rw [hagain hlater]
        exact ⟨rfl, answer.drain_isStreaming, answer.drain_status, answer.drain_headers⟩

/-- The only answer streams, and its connection fails while it is let go of before the second send.
    The third send finds it empty, and so does the caller. -/
example :
    let refused : Scripted := .ofFault (.io .connectionRefused "nobody listens")
    let cut : Chunk := .failure (.io .other "connection reset")
    let unwell : Scripted := ⟨.ok ⟨503, .empty, .streaming ⟨[.data [1], cut], none⟩⟩, .zero⟩
    let w := { Rehearsal.world with transport :=
      ⟨[("[::1]:8080", [unwell]), ("[::2]:8080", [refused]), ("[::3]:8080", [refused])], []⟩ }
    let run := Rehearsal.client.execute Provider.roster Script.transport (Rehearsal.request "PUT")
      .empty w
    run.trail.map (fun a => a.held.map (·.body)) = [none, some .empty, some .empty] ∧
      run.outcome.toOption.map (·.body) = some .empty := by
  decide +kernel

end Client

end Failover
