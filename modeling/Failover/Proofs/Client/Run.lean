import Failover.Proofs.Client.Step
import Failover.Proofs.Session.Next
import Failover.Provider.Tree
import Failover.Transport
import Mathlib.Logic.Relation
/-!
# Steps one after another

A run of a request is a chain of failed attempts and then an end.

* `Job.GoesOn`, `Job.Reaches` : one failed attempt more, and any number of them;
* `Job.Ends` : the session may not continue, or a last step closes the request;
* `Job.run_ends` : every run reaches an end in this way, so that the bound on its steps never shows.
  `Job.Reaches.run_step`, `Job.Reaches.run_spent`: how it gets on from any point that it reaches;
  `Job.Ends.error_cases`: the failures that it ends with;
* `Transport.replay` : requests sent one after another.  `Job.Reaches.replayed`: the trail of a run is
  all that its transport was sent, with the answers;
* `Job.LeavesOpen` : what is true of every attempt but the last.  `Job.Reaches.behind`: a run passes a
  point right behind each of them.  `Job.run_before`: it passes a point right before every attempt;
* `Client.execute_eq_failOver`, `Client.execute_cases` : the requests that get to a run.
  `Client.execute_replayed`, `Client.execute_before`: the trail of a request, as that of its run;
* `Rehearsal.run` : a small run to look at.
-/

set_option autoImplicit false

namespace Failover

variable {σ τ : Type}

/-- Sends requests one after another: the outcomes, and the state of the transport that is left. -/
def Transport.replay (T : Transport τ) : τ → List Request → List (Except Fault Response) × τ
  | t, [] => ([], t)
  | t, r :: rs =>
    let rest := T.replay (T.send r t).state rs
    ((T.send r t).outcome :: rest.1, rest.2)

theorem Transport.replay_append (T : Transport τ) (qs : List Request) :
    ∀ (rs : List Request) (t : τ), T.replay t (rs ++ qs) =
      ((T.replay t rs).1 ++ (T.replay (T.replay t rs).2 qs).1,
        (T.replay (T.replay t rs).2 qs).2)
  | [], _ => rfl
  | r :: rs, t => by
    rw [List.cons_append, replay, T.replay_append qs rs]
    rfl

theorem Transport.length_replay (T : Transport τ) : ∀ (rs : List Request) (t : τ),
    (T.replay t rs).1.length = rs.length
  | [], _ => rfl
  | r :: rs, t => congrArg (· + 1) (T.length_replay rs (T.send r t).state)

/-- The place of an item in a list with one more behind it: among the others, or last. -/
theorem split_concat {α : Type} {pre post l : List α} {a x : α} (h : l ++ [x] = pre ++ a :: post) :
    (∃ rest, post = rest ++ [x] ∧ l = pre ++ a :: rest) ∨ (post = [] ∧ l = pre ∧ x = a) := by
  rcases List.eq_nil_or_concat post with rfl | ⟨rest, y, rfl⟩
  · obtain ⟨hl, hx⟩ := List.append_inj' h rfl
    exact Or.inr ⟨rfl, hl, List.singleton_inj.mp hx⟩
  · rw [List.concat_eq_append, ← List.cons_append, ← List.append_assoc] at h
    obtain ⟨hl, hx⟩ := List.append_inj' h rfl
    exact Or.inl ⟨rest, by rw [List.concat_eq_append, hx], hl⟩

/-- What only ever comes last comes at most once. -/
theorem countP_le_one_of_last {α : Type} {P : α → Bool} : ∀ {l : List α},
    (∀ pre a post, l = pre ++ a :: post → P a = true → post = []) → l.countP P ≤ 1
  | [], _ => by simp
  | x :: xs, h => by
    cases hx : P x with
    | true =>
      have hxs : xs = [] := h [] x xs rfl hx
      simp [hxs, hx]
    | false =>
      have ih : xs.countP P ≤ 1 := by
        apply countP_le_one_of_last
        intro pre a post heq ha
        exact h (x :: pre) a post (by rw [heq]; rfl) ha
      simpa [hx] using ih

namespace Job

variable (R : Roster σ) (T : Transport τ) (j : Job)

/-- The session may continue, and one more attempt leaves the request open. -/
def GoesOn [DomainNames] (p q : Progress σ τ) : Prop :=
  p.session.mayContinue j.context.cancellation p.now = true ∧ j.step R T p = .on q

/-- Any number of failed attempts leads from `p` to `q`. -/
def Reaches [DomainNames] :
    Progress σ τ → Progress σ τ → Prop := Relation.ReflTransGen (GoesOn R T j)

/-- How a request that stands at `p` ends without another failed attempt. -/
inductive Ends [DomainNames] (p : Progress σ τ) :
    Except Failure Response → Progress σ τ → Prop where
  | spent (h : p.session.mayContinue j.context.cancellation p.now = false) :
    Ends p (p.conclusion .noAttempts) p
  | closed {e : Endpoint} {o : Except Failure Response} {q : Progress σ τ}
    (h : p.session.mayContinue j.context.cancellation p.now = true)
    (asked : (j.asked R p).host = .ok e) (last : Closed R T j p o q) : Ends p o q

variable {R T j} {p q : Progress σ τ}

theorem GoesOn.retried [DomainNames] (h : GoesOn R T j p q) :
    ∃ e request, Retried R T j p q e request := by
  obtain ⟨q', e, request, hs, hr⟩ | ⟨o, q', hs, _⟩ := step_cases R T j p
  · rw [h.2] at hs
    cases hs
    exact ⟨e, request, hr⟩
  · rw [h.2] at hs
    cases hs

/-- What every failed attempt keeps is kept by any number of them. -/
theorem Reaches.keeps [DomainNames] {P : Progress σ τ → Prop}
    (hstep : ∀ {b c : Progress σ τ} {e : Endpoint} {request : Request},
      Retried R T j b c e request → P b → P c)
    (h : Reaches R T j p q) (hp : P p) : P q := by
  induction h with
  | refl => exact hp
  | tail _ hgo ih =>
    obtain ⟨e, request, hr⟩ := hgo.retried
    exact hstep hr ih

theorem Retried.consistent [DomainNames] {e : Endpoint} {request : Request}
    (h : Retried R T j p q e request) (hp : p.session.Consistent) : q.session.Consistent := by
  rw [h.session]
  exact Session.next_consistent R hp _ _ _

/-- A session that may continue has a host for the request. -/
theorem asked_ok (hp : p.session.Consistent)
    (h : p.session.mayContinue j.context.cancellation p.now = true) :
    ∃ e, (j.asked R p).host = .ok e :=
  Session.next_ok R hp h _ _ _

/-- Steps enough for every host that the session can hand out lead to an end. -/
theorem loop_ends [DomainNames] :
    ∀ (n : Nat) {p : Progress σ τ}, p.session.Consistent → p.session.bound ≤ n →
    ∃ q, Reaches R T j p q ∧ Ends R T j q (j.loop R T n p).1 (j.loop R T n p).2
  | 0, p, _, hn =>
    ⟨p, .refl, .spent (Session.mayContinue_of_bound_eq_zero (Nat.le_zero.mp hn) _ _)⟩
  | n + 1, p, hp, hn => by
    unfold loop
    cases hm : p.session.mayContinue j.context.cancellation p.now with
    | false => exact ⟨p, .refl, .spent hm⟩
    | true =>
      obtain ⟨e, he⟩ := asked_ok (R := R) hp hm
      obtain ⟨q, e', request, hs, hr⟩ | ⟨o, q, hs, hc⟩ := step_cases R T j p
      · have hgo : GoesOn R T j p q := ⟨hm, hs⟩
        have hb : p.session.bound = q.session.bound + 1 := by
          rw [hr.session]
          exact Session.bound_next R hr.asked
        obtain ⟨q', hreach, hends⟩ := loop_ends n (hr.consistent hp) (by omega)
        simp only [hs, if_true]
        exact ⟨q', .head hgo hreach, hends⟩
      · simp only [hs, if_true]
        exact ⟨p, .refl, .closed hm he hc⟩

theorem begin_consistent (R : Roster σ) (j : Job) (w : World σ τ) :
    (j.begin R w).session.Consistent :=
  Session.start_consistent R _ _ _

/-- **Every run is a chain of failed attempts with an end.** -/
theorem run_ends [DomainNames] (R : Roster σ) (T : Transport τ) (j : Job) (w : World σ τ) :
    ∃ q, Reaches R T j (j.begin R w) q ∧ Ends R T j q (j.run R T w).1 (j.run R T w).2 :=
  loop_ends _ (begin_consistent R j w) (Nat.le_refl _)

/-- A run goes through every point that it reaches, and on from there. -/
theorem loop_of_reaches [DomainNames] (h : Reaches R T j p q) (hp : p.session.Consistent) :
    j.loop R T p.session.bound p = j.loop R T q.session.bound q := by
  induction h using Relation.ReflTransGen.head_induction_on with
  | refl => rfl
  | @head b c hgo _ ih =>
    obtain ⟨e, request, hr⟩ := hgo.retried
    have hbound : b.session.bound = c.session.bound + 1 := by
      rw [hr.session]
      exact Session.bound_next R hr.asked
    rw [← ih (hr.consistent hp), hbound, loop, hgo.1, hgo.2]
    rfl

theorem Reaches.consistent [DomainNames] {w : World σ τ} {m : Progress σ τ}
    (h : Reaches R T j (j.begin R w) m) : m.session.Consistent :=
  h.keeps (fun hr => hr.consistent) (begin_consistent R j w)

/-- A run ends where it reaches a point at which the session may not continue. -/
theorem Reaches.run_spent [DomainNames] {w : World σ τ} {m : Progress σ τ}
    (h : Reaches R T j (j.begin R w) m)
    (hspent : m.session.mayContinue j.context.cancellation m.now = false) :
    j.run R T w = (m.conclusion .noAttempts, m) := by
  have hrun : j.run R T w = j.loop R T m.session.bound m :=
    loop_of_reaches h (begin_consistent R j w)
  rw [hrun]
  cases m.session.bound with
  | zero => rfl
  | succ n =>
    rw [loop, hspent]
    rfl

/-- Anywhere else it ends with the next step, or goes on to one more point. -/
theorem Reaches.run_step [DomainNames] {w : World σ τ} {m : Progress σ τ}
    (h : Reaches R T j (j.begin R w) m)
    (hmay : m.session.mayContinue j.context.cancellation m.now = true) :
    Closed R T j m (j.run R T w).1 (j.run R T w).2 ∨
      ∃ b e request, Retried R T j m b e request ∧ Reaches R T j (j.begin R w) b := by
  obtain ⟨b, e, request, hs, hr⟩ | ⟨o, q, hs, hc⟩ := step_cases R T j m
  · exact Or.inr ⟨b, e, request, hr, h.tail ⟨hmay, hs⟩⟩
  · have hrun : j.run R T w = j.loop R T m.session.bound m :=
      loop_of_reaches h (begin_consistent R j w)
    cases hbound : m.session.bound with
    | zero =>
      rw [Session.mayContinue_of_bound_eq_zero hbound] at hmay
      cases hmay
    | succ n =>
      rw [hrun, hbound, loop, hmay, hs]
      exact Or.inl hc

/-! ## The trail -/

/-- Where a request stands agrees with what its transport was sent from `t` on. -/
def Replayed (T : Transport τ) (t : τ) (p : Progress σ τ) : Prop :=
  T.replay t (p.trail.map (·.request)) = (p.trail.map (·.outcome), p.transport)

theorem Sent.replayed [DomainNames] {e : Endpoint} {request : Request}
    (h : Sent R T j p q e request) {t : τ} (hp : Replayed T t p) : Replayed T t q := by
  unfold Replayed at hp ⊢
  rw [h.trail, h.transport, List.map_append, List.map_append, List.map_singleton,
    List.map_singleton, Transport.replay_append, hp]
  rfl

theorem Reaches.replayed [DomainNames] (h : Reaches R T j p q) {t : τ} (hp : Replayed T t p) :
    Replayed T t q :=
  h.keeps (fun hr => hr.replayed) hp

theorem Ends.replayed [DomainNames] {o : Except Failure Response} (h : Ends R T j p o q) {t : τ}
    (hp : Replayed T t p) : Replayed T t q := by
  cases h with
  | spent => exact hp
  | closed _ _ last =>
    cases last with
    | unsupplied | unnamed | unprepared => exact hp
    | answered sent | broken sent | doubtful sent => exact sent.replayed hp

/-- **The trail of a run is all that its transport was sent**, in order and with the answers. -/
theorem run_replayed [DomainNames] (R : Roster σ) (T : Transport τ) (j : Job) (w : World σ τ) :
    Replayed T w.transport (j.run R T w).2 := by
  obtain ⟨q, hreach, hends⟩ := run_ends R T j w
  exact hends.replayed (hreach.replayed rfl)

/-- **The failures that a run ends with**: nothing was left to try, or a host has no name, or no request
    can be prepared for it, or the transport has failed. -/
theorem Ends.error_cases [DomainNames] {o : Except Failure Response} (h : Ends R T j p o q)
    {f : Failure} (ho : o = .error f) :
    f = .noAttempts ∨ f = .invariantViolation (.emptyHost j.supplied) ∨ (∃ g, f = .transport g) ∨
      ∃ e cause, p.session.mayContinue j.context.cancellation p.now = true ∧
        (j.asked R p).host = .ok e ∧ j.client.prepare j.request e j.context = .error f ∧
        f = .invalidRequest cause := by
  cases h with
  | spent =>
    unfold Progress.conclusion at ho
    split at ho
    · cases ho
    · cases ho
      exact Or.inr (Or.inr (Or.inl ⟨_, rfl⟩))
    · cases ho
      exact Or.inl rfl
  | closed hmay asked last =>
    cases last with
    | unsupplied unasked => cases asked.symm.trans unasked
    | unnamed =>
      cases ho
      exact Or.inr (Or.inl rfl)
    | unprepared asked _ unprepared =>
      cases ho
      exact Or.inr (Or.inr (Or.inr ⟨_, _, hmay, asked, unprepared, rfl⟩))
    | answered => cases ho
    | broken | doubtful =>
      cases ho
      exact Or.inr (Or.inr (Or.inl ⟨_, rfl⟩))

/-! ## Attempts along the way -/

/-- The attempt leaves the request open: another host may do better, and may be tried. -/
def LeavesOpen (j : Job) (a : Attempt) : Prop :=
  (∃ r, a.outcome = .ok r ∧ r.isRecoverable = true) ∨
    ∃ f, a.outcome = .error f ∧ f.isIo = true ∧ j.client.mayRepeat j.request.method f = true

theorem Retried.leavesOpen [DomainNames] {e : Endpoint} {request : Request}
    (h : Retried R T j p q e request) : j.LeavesOpen (attemptAt R T j p e request) := by
  obtain ⟨r, ho, hr, -, -⟩ | ⟨f, ho, hio, hm, -, -⟩ := h.kept
  · exact Or.inl ⟨r, ho, hr⟩
  · exact Or.inr ⟨f, ho, hio, hm⟩

/-- The attempts between two points of a run all left the request open. -/
theorem Reaches.trail [DomainNames] (h : Reaches R T j p q) :
    ∃ more, q.trail = p.trail ++ more ∧ ∀ a ∈ more, j.LeavesOpen a := by
  induction h with
  | refl => exact ⟨[], by simp, by simp⟩
  | @tail b c _ hstep ih =>
    obtain ⟨more, ht, hopen⟩ := ih
    obtain ⟨e, request, hr⟩ := hstep.retried
    refine ⟨more ++ [attemptAt R T j b e request], ?_, ?_⟩
    · rw [hr.trail, ht, List.append_assoc]
    · intro a ha
      rcases List.mem_append.mp ha with ha | ha
      · exact hopen a ha
      · rw [List.mem_singleton.mp ha]
        exact hr.leavesOpen

/-- A run passes a point right behind each of its attempts, and keeps the fault of it there. -/
theorem Reaches.behind [DomainNames] (h : Reaches R T j p q) {pre post : List Attempt} {a : Attempt}
    (ht : q.trail = p.trail ++ (pre ++ a :: post)) :
    ∃ m, Reaches R T j p m ∧ Reaches R T j m q ∧ m.trail = p.trail ++ (pre ++ [a]) ∧
      ∀ f, a.outcome = .error f → m.fault = some f := by
  induction h generalizing post with
  | refl => simp at ht
  | @tail b c hb hstep ih =>
    obtain ⟨e, request, hr⟩ := hstep.retried
    rw [← List.append_assoc, hr.trail] at ht
    obtain ⟨rest, rfl, hinit⟩ | ⟨rfl, hinit, rfl⟩ := split_concat ht
    · obtain ⟨m, hpm, hmb, hm, hfault⟩ := ih (by rw [hinit, List.append_assoc])
      exact ⟨m, hpm, hmb.tail hstep, hm, hfault⟩
    · -- The attempt is the one just made.
      refine ⟨c, hb.tail hstep, .refl, by rw [hr.trail, hinit, List.append_assoc], ?_⟩
      intro f hf
      obtain ⟨r, ho, _⟩ | ⟨f', ho, -, -, -, hfault⟩ := hr.kept
      · cases hf.symm.trans ho
      · cases hf.symm.trans ho
        exact hfault

/-- On the way from `p`, a run stands at `m` right before it makes the attempt. -/
structure Before [DomainNames] (R : Roster σ) (T : Transport τ) (j : Job) (p m : Progress σ τ)
    (a : Attempt) : Prop extends Sendable R j m a.candidate a.request where
  reached : Reaches R T j p m
  mayContinue : m.session.mayContinue j.context.cancellation m.now = true
  attempt : a = attemptAt R T j m a.candidate a.request

/-- A run stands right before each of its attempts at some point. -/
theorem Reaches.before [DomainNames] (h : Reaches R T j p q) {pre post : List Attempt} {a : Attempt}
    (ht : q.trail = p.trail ++ (pre ++ a :: post)) :
    ∃ m, Before R T j p m a ∧ m.trail = p.trail ++ pre := by
  induction h generalizing post with
  | refl => simp at ht
  | @tail b c hb hstep ih =>
    obtain ⟨e, request, hr⟩ := hstep.retried
    rw [← List.append_assoc, hr.trail] at ht
    obtain ⟨rest, -, hinit⟩ | ⟨-, hinit, rfl⟩ := split_concat ht
    · exact ih (by rw [hinit, List.append_assoc])
    · exact ⟨b, ⟨hr.toSendable, hb, hstep.1, rfl⟩, hinit⟩

/-- So it does before the attempt that ends it. -/
theorem Ends.before [DomainNames] {s : Progress σ τ} {o : Except Failure Response}
    (hreach : Reaches R T j s p) (h : Ends R T j p o q) {pre post : List Attempt} {a : Attempt}
    (ht : q.trail = s.trail ++ (pre ++ a :: post)) :
    ∃ m, Before R T j s m a ∧ m.trail = s.trail ++ pre := by
  cases h with
  | spent => exact hreach.before ht
  | closed hmay _ last =>
    cases last with
    | unsupplied | unnamed | unprepared => exact hreach.before ht
    | answered sent | broken sent | doubtful sent =>
      rw [← List.append_assoc, sent.trail] at ht
      obtain ⟨rest, -, hinit⟩ | ⟨-, hinit, rfl⟩ := split_concat ht
      · exact hreach.before (by rw [hinit, List.append_assoc])
      · exact ⟨p, ⟨sent.toSendable, hreach, hmay, rfl⟩, hinit⟩

/-- **A run stands right before each of its attempts at some point**: the session hands out the
    candidate there, and the request is prepared for it. -/
theorem run_before [DomainNames] (R : Roster σ) (T : Transport τ) (j : Job) (w : World σ τ)
    {pre post : List Attempt} {a : Attempt} (ht : (j.run R T w).2.trail = pre ++ a :: post) :
    ∃ m, Before R T j (j.begin R w) m a ∧ m.trail = pre := by
  obtain ⟨q, hreach, hends⟩ := run_ends R T j w
  exact hends.before hreach ht

/-- An end adds at most one attempt to the trail, and that one did not leave the request open. -/
theorem Ends.trail [DomainNames] {o : Except Failure Response} (h : Ends R T j p o q) :
    q.trail = p.trail ∨
      ∃ e request, Sent R T j p q e request ∧ ¬ j.LeavesOpen (attemptAt R T j p e request) := by
  cases h with
  | spent => exact Or.inl rfl
  | closed _ _ last =>
    cases last with
    | unsupplied | unnamed | unprepared => exact Or.inl rfl
    | @answered _ e request r sent _ _ outcome fine =>
      refine Or.inr ⟨e, request, sent, ?_⟩
      rintro (⟨r', ho, hr⟩ | ⟨f, ho, _⟩)
      · cases outcome.symm.trans ho
        rw [fine] at hr
        cases hr
      · cases outcome.symm.trans ho
    | @broken _ e request f sent _ _ outcome other =>
      refine Or.inr ⟨e, request, sent, ?_⟩
      rintro (⟨r, ho, _⟩ | ⟨f', ho, hio, _⟩)
      · cases outcome.symm.trans ho
      · cases outcome.symm.trans ho
        rw [other] at hio
        cases hio
    | @doubtful _ e request f sent _ _ outcome _ once =>
      refine Or.inr ⟨e, request, sent, ?_⟩
      rintro (⟨r, ho, _⟩ | ⟨f', ho, _, hm⟩)
      · cases outcome.symm.trans ho
      · cases outcome.symm.trans ho
        rw [once] at hm
        cases hm

end Job

/-! ## From requests to runs -/

namespace Client

/-- A request on its way through a client. -/
def job (c : Client) (r : Request) (supplied : Endpoint) (context : Context) : Job :=
  ⟨c, r, supplied.withDefaultPort suppliedPort, context⟩

/-- A request that does not go over TLS, to an endpoint that is supported, is tried at one candidate
    after another. -/
theorem execute_eq_failOver [DomainNames] {R : Roster σ} (T : Transport τ) (c : Client)
    {r : Request} (context : Context) {w : World σ τ} {supplied : Endpoint}
    (hplain : r.isSecure = false) (hend : r.endpoint = .ok supplied)
    (hsup : R.supports w.roster supplied = true) :
    c.execute R T r context w = failOver R T (c.job r supplied context) w := by
  simp only [execute, hplain, hend, hsup, if_true]
  rfl

/-- A request over TLS is sent as it is; any other is refused or gets to a run. -/
theorem execute_cases [DomainNames] (R : Roster σ) (T : Transport τ) (c : Client) (r : Request)
    (context : Context) (w : World σ τ) :
    (r.isSecure = true ∧ c.execute R T r context w = sendDirectly T r w) ∨
      (∃ f, c.execute R T r context w = .refused f w) ∨
      ∃ supplied, r.endpoint = .ok supplied ∧ R.supports w.roster supplied = true ∧
        c.execute R T r context w = failOver R T (c.job r supplied context) w := by
  cases hs : r.isSecure with
  | true => exact Or.inl ⟨rfl, by simp only [execute, hs, if_true]⟩
  | false =>
    refine Or.inr ?_
    cases he : r.endpoint with
    | error f => exact Or.inl ⟨f, by simp only [execute, hs, he]; rfl⟩
    | ok supplied =>
      cases hsup : R.supports w.roster supplied with
      | true => exact Or.inr ⟨supplied, rfl, hsup, execute_eq_failOver T c context hs he hsup⟩
      | false => exact Or.inl ⟨_, by simp only [execute, hs, he, hsup]; rfl⟩

/-- The trail of a request that does not go over TLS is all that the transport was sent. -/
theorem execute_replayed [DomainNames] (R : Roster σ) (T : Transport τ) (c : Client) {r : Request}
    (context : Context) (w : World σ τ) (hplain : r.isSecure = false) :
    let run := c.execute R T r context w
    T.replay w.transport (run.trail.map (·.request)) =
      (run.trail.map (·.outcome), run.world.transport) := by
  intro run
  obtain ⟨hs, -⟩ | ⟨f, hrun⟩ | ⟨supplied, -, -, hrun⟩ := execute_cases R T c r context w
  · rw [hplain] at hs
    cases hs
  · change run = _ at hrun
    rw [hrun]
    rfl
  · change run = _ at hrun
    rw [hrun]
    exact Job.run_replayed R T (c.job r supplied context) w

/-- Every attempt is one of a run, which stands right before it at some point. -/
theorem execute_before [DomainNames] (R : Roster σ) (T : Transport τ) (c : Client) (r : Request)
    (context : Context) (w : World σ τ) {pre post : List Attempt} {a : Attempt}
    (ht : (c.execute R T r context w).trail = pre ++ a :: post) :
    ∃ supplied m, r.endpoint = .ok supplied ∧
      Job.Before R T (c.job r supplied context) ((c.job r supplied context).begin R w) m a ∧
      m.trail = pre := by
  obtain ⟨-, hrun⟩ | ⟨f, hrun⟩ | ⟨supplied, hend, -, hrun⟩ := execute_cases R T c r context w
  · rw [hrun] at ht
    simp [sendDirectly] at ht
  · rw [hrun] at ht
    simp [Execution.refused] at ht
  · rw [hrun] at ht
    obtain ⟨m, hm, htrail⟩ := Job.run_before R T (c.job r supplied context) w ht
    exact ⟨supplied, m, hend, hm, htrail⟩

end Client

/-! ## A rehearsal -/

namespace Rehearsal

/-- Tries every candidate once. -/
def client : Client := ⟨"rehearsal", .http, .eachOnce, false, none, ⟨fun _ => false⟩⟩

/-- A request without a body. -/
def request (method : String) : Request :=
  ⟨⟨method⟩, ⟨"http", some ⟨"", none, some (.name "service"), none⟩, false, "/", none, none⟩,
    .empty, none⟩

/-- The answer does not come in time. -/
def late : Fault := .wrapped "awaiting the answer" (.timeout .read)

/-- Three candidates: the first is unwell, the second is late, the third is fine. -/
def world : World Provider Script where
  roster := .leaf (.recording ⟨"nodes", [.of "::1" none, .of "::2" none, .of "::3" none], true, []⟩)
  transport :=
    ⟨[("[::1]:8080", [.ofStatus 503 []]), ("[::2]:8080", [.ofFault late]),
      ("[::3]:8080", [.ofStatus 200 []])], []⟩
  now := 0
  stats := .zero

/-- What becomes of a request of this method. -/
def run [DomainNames] (method : String) : Execution Provider Script :=
  client.execute Provider.roster Script.transport (request method) .empty world

end Rehearsal

end Failover
