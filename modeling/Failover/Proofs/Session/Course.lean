import Failover.Proofs.Session.Next
/-!
# The hosts that lie ahead

What a session hands out to a caller that waits as long as it takes and finds no host well.

* `Session.course` : the hosts, each of them reported as failed before the next is asked for;
* `Session.ahead` : as many of them as the session can hand out;
* `Session.ahead_of_mayContinue`, `Session.ahead_of_spent` : the next of them and the others;
* `Session.ahead_pass` : in a single pass they are the candidates that wait.
-/

set_option autoImplicit false

namespace Failover

variable {σ : Type}

namespace Session

/-! ## Without a hurry, the clock does not matter -/

/-- With a caller that waits as long as it takes, whether a session may continue is the same at all
    times. -/
theorem mayContinue_never (s : Session) (now later : Nat) :
    s.mayContinue .never now = s.mayContinue .never later := by
  cases s with
  | pass p => rfl
  | rounds r => rfl

/-- With a caller that waits as long as it takes, all but the instant of an answer is the same at all
    times. -/
theorem next_never (R : Roster σ) (s : Session) (now later : Nat) (st : σ) :
    (s.next R .never now st).host = (s.next R .never later st).host ∧
      (s.next R .never now st).session = (s.next R .never later st).session ∧
      (s.next R .never now st).state = (s.next R .never later st).state := by
  cases s with
  | pass p => exact ⟨rfl, rfl, rfl⟩
  | rounds r =>
    by_cases hb : r.plan.budget ≤ r.attempts
    · simp [next, Rounds.next, hb]
    · cases hw : r.waiting <;> simp [next, Rounds.next, hb, hw]

/-! ## One host after another -/

/-- The hosts that a session hands out, at most `n`, if each of them is reported as failed before the
    next is asked for. -/
def course (R : Roster σ) : Nat → Session → σ → List Endpoint
  | 0, _, _ => []
  | n + 1, s, st =>
    if s.mayContinue .never 0 then
      let h := s.next R .never 0 st
      match h.host with
      | .error _ => []
      | .ok e => e :: course R n h.session (R.report e h.state).state
    else []

/-- All hosts that a session has still to hand out, if each of them fails. -/
def ahead (R : Roster σ) (s : Session) (st : σ) : List Endpoint := course R s.bound s st

/-- A session that may not continue has no hosts ahead. -/
theorem ahead_of_spent (R : Roster σ) {s : Session} {now : Nat}
    (h : s.mayContinue .never now = false) (st : σ) : s.ahead R st = [] := by
  rw [mayContinue_never s now 0] at h
  unfold ahead
  cases s.bound with
  | zero => rfl
  | succ n => simp [course, h]

/-- Ahead of a session that may continue are the host that it hands out, and the hosts ahead of it
    once that host has been reported. -/
theorem ahead_of_mayContinue (R : Roster σ) {s : Session} {now : Nat} {st : σ} {e : Endpoint}
    (h : s.mayContinue .never now = true) (he : (s.next R .never now st).host = .ok e) :
    s.ahead R st = e :: (s.next R .never now st).session.ahead R
      (R.report e (s.next R .never now st).state).state := by
  have hbound := bound_next R he
  rw [mayContinue_never s now 0] at h
  obtain ⟨hhost, hsession, hstate⟩ := next_never R s now 0 st
  rw [hhost] at he
  rw [hsession] at hbound ⊢
  rw [hstate]
  unfold ahead
  rw [hbound]
  simp only [course, h, if_true, he]

/-- A single pass hands out the candidates that wait, in their order. -/
theorem ahead_pass (R : Roster σ) : ∀ (es : List Endpoint) (n : Nat) (st : σ),
    (pass ⟨es, n⟩).ahead R st = es
  | [], n, st => by
    have hspent : (pass ⟨[], n⟩).mayContinue .never 0 = false := rfl
    exact ahead_of_spent R hspent st
  | e :: es, n, st => by
    have hmay : (pass ⟨e :: es, n⟩).mayContinue .never 0 = true := rfl
    rw [ahead_of_mayContinue R hmay rfl]
    exact congrArg (e :: ·) (ahead_pass R es (n + 1) _)

end Session

end Failover
