import Failover.Proofs.Session.Next
import Failover.Session
/-!
# Sessions under every use

A session may be asked whether it continues or not asked, asked for hosts that it does not have, told
of failures, and given up on at any instant, a pause included.  Whatever is done with it:

* `LiveSession.mayContinue_foretells_next` : its word that it may continue is kept by the next
  hand-out, its word that it may not is kept for good, and the hosts handed out are counted and stay
  within the budget.

The steps on the way are `perform_…`, one for each fact about one operation, and `use_…`, the same for
operations one after another.
-/

set_option autoImplicit false

namespace Failover

/-- What can be done with a session, or happen to it.  The caller may give up at an instant, now or later, and
    time goes by. -/
inductive Operation where
  | ask
  | next
  | report (e : Endpoint)
  | cancelAt (t : Nat)
  | wait (d : Duration)
deriving DecidableEq, Repr

/-- What an operation is answered. -/
inductive Answer where
  | continues (b : Bool)
  | host (h : Except Failure Endpoint)
  | heard (h : Except Failure Unit)
  | silence

/-- Whether a host was handed out. -/
def Answer.isHost : Answer → Bool
  | host (.ok _) => true
  | _ => false

theorem Answer.isHost_host (h : Except Failure Endpoint) : (Answer.host h).isHost = h.isOk := by
  cases h <;> rfl

namespace LiveSession

variable {σ : Type}

/-- One operation. -/
def perform (R : Roster σ) (s : LiveSession σ) : Operation → Answer × LiveSession σ
  | .ask => (.continues s.mayContinue, s)
  | .next => (.host (s.next R).1, (s.next R).2)
  | .report e => (.heard (s.report R e).1, (s.report R e).2)
  | .cancelAt t => (.silence, s.cancelAt t)
  | .wait d => (.silence, s.wait d)

/-- Operations one after another: the answers, and the session that is left. -/
def use (R : Roster σ) : List Operation → LiveSession σ → List Answer × LiveSession σ
  | [], s => ([], s)
  | op :: ops, s =>
    let r := s.perform R op
    let rest := use R ops r.2
    (r.1 :: rest.1, rest.2)

/-! ## One operation -/

theorem perform_consistent (R : Roster σ) {s : LiveSession σ} (hs : s.session.Consistent)
    (op : Operation) : (s.perform R op).2.session.Consistent := by
  cases op with
  | next => exact Session.next_consistent R hs _ _ _
  | ask | report | cancelAt | wait => exact hs

/-- Only a hand-out changes the session itself. -/
theorem perform_session (R : Roster σ) (s : LiveSession σ) {op : Operation} (h : op ≠ .next) :
    (s.perform R op).2.session = s.session := by
  cases op with
  | next => exact absurd rfl h
  | ask | report | cancelAt | wait => rfl

theorem perform_attempts (R : Roster σ) (s : LiveSession σ) (op : Operation) :
    (s.perform R op).2.session.attempts =
      s.session.attempts + (if (s.perform R op).1.isHost then 1 else 0) := by
  cases op with
  | next =>
    have h := s.session.attempts_next R s.cancellation s.now s.state
    show (s.session.next R s.cancellation s.now s.state).session.attempts = _
    rw [h]
    simp only [perform, LiveSession.next, Answer.isHost_host]
  | ask | report | cancelAt | wait => rfl

theorem perform_plan? (R : Roster σ) (s : LiveSession σ) (op : Operation) :
    (s.perform R op).2.session.plan? = s.session.plan? := by
  cases op with
  | next => exact s.session.plan?_next R _ _ _
  | ask | report | cancelAt | wait => rfl

/-- A session does not take heart again when its caller loses patience or time goes by. -/
theorem mayContinue_mono {s : Session} {c c' : Cancellation} {now later : Nat}
    (hc : c.isCancelled now = true → c'.isCancelled later = true)
    (h : s.mayContinue c now = false) : s.mayContinue c' later = false := by
  cases s with
  | pass p => exact h
  | rounds r =>
    simp only [Session.mayContinue, Rounds.mayContinue] at h ⊢
    cases hn : c.isCancelled now
    · rw [hn] at h
      cases c'.isCancelled later
      · exact h
      · simp
    · simp [hc hn]

theorem isCancelled_orAt {c : Cancellation} {now : Nat} (h : c.isCancelled now = true) (t : Nat) :
    (c.orAt t).isCancelled now = true := by
  unfold Cancellation.isCancelled at h
  split at h
  · rename_i s hs
    have : s ≤ now := by simpa using h
    have : min s t ≤ now := Nat.le_trans (Nat.min_le_left s t) this
    simpa [Cancellation.orAt, Cancellation.isCancelled, hs] using this
  · cases h

theorem perform_stopped (R : Roster σ) {s : LiveSession σ} (hs : s.session.Consistent)
    (h : s.mayContinue = false) (op : Operation) : (s.perform R op).2.mayContinue = false := by
  cases op with
  | next => exact Session.next_stopped R hs h s.state
  | ask | report => exact h
  | cancelAt t => exact mayContinue_mono (fun hc => isCancelled_orAt hc t) h
  | wait d => exact mayContinue_mono (s.cancellation.isCancelled_mono (Nat.le_add_right _ _)) h

/-! ## Operations one after another -/

theorem use_consistent (R : Roster σ) : ∀ (ops : List Operation) {s : LiveSession σ},
    s.session.Consistent → (s.use R ops).2.session.Consistent
  | [], _, h => h
  | op :: ops, _, h => use_consistent R ops (perform_consistent R h op)

theorem use_session (R : Roster σ) : ∀ (ops : List Operation) (s : LiveSession σ),
    Operation.next ∉ ops → (s.use R ops).2.session = s.session
  | [], _, _ => rfl
  | op :: ops, s, h => by
    have hop : op ≠ .next := fun he => h (he ▸ List.mem_cons_self)
    have hops : Operation.next ∉ ops := fun hm => h (List.mem_cons_of_mem _ hm)
    show ((s.perform R op).2.use R ops).2.session = s.session
    rw [use_session R ops _ hops, perform_session R s hop]

theorem use_attempts (R : Roster σ) : ∀ (ops : List Operation) (s : LiveSession σ),
    (s.use R ops).2.session.attempts = s.session.attempts + (s.use R ops).1.countP Answer.isHost
  | [], _ => rfl
  | op :: ops, s => by
    show ((s.perform R op).2.use R ops).2.session.attempts =
      s.session.attempts + ((s.perform R op).1 :: ((s.perform R op).2.use R ops).1).countP _
    rw [use_attempts R ops, perform_attempts, List.countP_cons]
    omega

theorem use_plan? (R : Roster σ) : ∀ (ops : List Operation) (s : LiveSession σ),
    (s.use R ops).2.session.plan? = s.session.plan?
  | [], _ => rfl
  | op :: ops, s => (use_plan? R ops _).trans (perform_plan? R s op)

theorem use_budget? (R : Roster σ) (ops : List Operation) (s : LiveSession σ) :
    (s.use R ops).2.session.budget? = s.session.budget? := by
  rw [Session.budget?_eq, Session.budget?_eq, use_plan?]

theorem use_stopped (R : Roster σ) : ∀ (ops : List Operation) {s : LiveSession σ},
    s.session.Consistent → s.mayContinue = false → (s.use R ops).2.mayContinue = false
  | [], _, _, h => h
  | op :: ops, _, hs, h =>
    use_stopped R ops (perform_consistent R hs op) (perform_stopped R hs h op)

/-! ## Main theorem -/

/-- **A session keeps its word.**  After any use of it:

    * if it may continue, the next hand-out gives a host, whatever is done before it and whenever the
      caller gives up, as long as nobody else takes that host;
    * if it may not continue, it may not after anything that is still done with it;
    * it has counted the hosts that it handed out, and they are within the budget if it has one. -/
theorem mayContinue_foretells_next (R : Roster σ) (policy : Policy) (supplied : Endpoint)
    (c : Cancellation) (st : σ) (ops : List Operation) :
    let used := (LiveSession.start R policy supplied c st).use R ops
    (used.2.mayContinue = true → ∀ between, Operation.next ∉ between →
      ∃ e, ((used.2.use R between).2.next R).1 = .ok e) ∧
    (used.2.mayContinue = false → ∀ after, (used.2.use R after).2.mayContinue = false) ∧
    used.2.session.attempts = used.1.countP Answer.isHost ∧
    ∀ plan, policy = .backoff plan → used.2.session.attempts ≤ plan.budget := by
  intro used
  have hstart := Session.start_consistent R policy supplied st
  have hs : used.2.session.Consistent := use_consistent R ops hstart
  refine ⟨fun h between hb => ?_, fun h after => use_stopped R after hs h, ?_, ?_⟩
  · obtain ⟨e, he⟩ := Session.next_ok R hs h (used.2.use R between).2.cancellation
      (used.2.use R between).2.now (used.2.use R between).2.state
    refine ⟨e, ?_⟩
    unfold LiveSession.next
    rw [use_session R between _ hb]
    exact he
  · have h0 : (LiveSession.start R policy supplied c st).session.attempts = 0 := by
      cases policy <;> rfl
    have := use_attempts R ops (LiveSession.start R policy supplied c st)
    rw [h0, Nat.zero_add] at this
    exact this
  · rintro plan rfl
    exact Session.attempts_le_budget hs (use_budget? R ops _)

end LiveSession

end Failover
