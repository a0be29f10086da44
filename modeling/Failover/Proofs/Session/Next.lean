import Failover.Session
/-!
# One hand-out of a session

What `Session.next` can do, said once, and the invariant behind its promise.

* `Rounds.next_cases` : the three ways in which a session of rounds answers;
* `Rounds.Consistent` : while budget remains, a session of rounds believes in candidates exactly if
  some are waiting.  `Session.next_consistent`: every hand-out keeps this;
* `Session.next_ok` : a session that may continue hands out a host, whatever the caller does in the
  meantime;
* `Session.next_stopped` : a session that may not continue never may again;
* `Session.attempts_next`, `Session.bound_next` : a hand-out counts as one attempt, and uses up one
  of those that are left.
-/

set_option autoImplicit false

namespace Failover

variable {σ : Type}

namespace Rounds

/-! ## Pauses and refills -/

/-- A pause changes nothing but the mark that it was cut short. -/
theorem pause_fst (r : Rounds) (c : Cancellation) (now : Nat) :
    (r.pause c now).1 =
      { r with cancelled := r.cancelled || (r.delay.nanos != 0 && c.cutsShort now r.delay) } := by
  unfold pause
  split
  · rename_i h; simp [h]
  · rename_i h
    have : (r.delay.nanos != 0) = true := by simpa using h
    rw [this, Bool.true_and]

/-- No pause ends before it began. -/
theorem le_pause_snd (r : Rounds) (c : Cancellation) (now : Nat) : now ≤ (r.pause c now).2 := by
  unfold pause
  split
  · exact Nat.le_refl _
  · exact c.le_wakeAt now r.delay

/-- A caller that waits as long as it takes changes nothing by a pause. -/
@[simp] theorem pause_never_fst (r : Rounds) (now : Nat) : (r.pause .never now).1 = r := by
  rw [pause_fst]; simp

/-- Candidates are asked for again only when they are used up and the budget is not. -/
theorem refill_cases (R : Roster σ) (r : Rounds) (st : σ) :
    (r.waiting = [] ∧ r.attempts < r.plan.budget ∧
      refill R r st = ⟨{ r with
        waiting := (R.candidates r.supplied st).value
        hasCandidates := !(R.candidates r.supplied st).value.isEmpty },
        (R.candidates r.supplied st).state, (R.candidates r.supplied st).events⟩) ∨
    ((r.waiting ≠ [] ∨ r.plan.budget ≤ r.attempts) ∧ refill R r st = .of r st) := by
  unfold refill
  split
  · rename_i h
    simp only [Bool.and_eq_true, List.isEmpty_iff, decide_eq_true_eq] at h
    exact Or.inl ⟨h.1, h.2, rfl⟩
  · rename_i h
    simp only [Bool.and_eq_true, List.isEmpty_iff, decide_eq_true_eq, not_and, Nat.not_lt] at h
    refine Or.inr ⟨?_, rfl⟩
    by_cases hw : r.waiting = []
    · exact Or.inr (h hw)
    · exact Or.inl hw

@[simp] theorem refill_plan (R : Roster σ) (r : Rounds) (st : σ) :
    (refill R r st).value.plan = r.plan := by
  obtain ⟨_, _, h⟩ | ⟨_, h⟩ := refill_cases R r st <;> simp [h, Reply.of]

@[simp] theorem refill_cancelled (R : Roster σ) (r : Rounds) (st : σ) :
    (refill R r st).value.cancelled = r.cancelled := by
  obtain ⟨_, _, h⟩ | ⟨_, h⟩ := refill_cases R r st <;> simp [h, Reply.of]

@[simp] theorem refill_attempts (R : Roster σ) (r : Rounds) (st : σ) :
    (refill R r st).value.attempts = r.attempts := by
  obtain ⟨_, _, h⟩ | ⟨_, h⟩ := refill_cases R r st <;> simp [h, Reply.of]

/-! ## The three answers -/

/-- The session as it hands out a host: the pause is over, and candidates are asked for again if
    this was the last one. -/
def taking (R : Roster σ) (r : Rounds) (c : Cancellation) (now : Nat) (rest : List Endpoint)
    (st : σ) : Reply σ Rounds :=
  refill R { (r.pause c now).1 with waiting := rest, attempts := r.attempts + 1 } st

/-- What a session of rounds answers: nothing for want of budget, nothing for want of candidates, or
    the first candidate that waits. -/
theorem next_cases (R : Roster σ) (r : Rounds) (c : Cancellation) (now : Nat) (st : σ) :
    (r.plan.budget ≤ r.attempts ∧
      r.next R c now st = ⟨.error (.sessionExhausted r.attempts), .rounds r, now, st, []⟩) ∨
    (r.attempts < r.plan.budget ∧ r.waiting = [] ∧
      r.next R c now st = ⟨.error (.sessionExhausted r.attempts),
        .rounds { (r.pause c now).1 with hasCandidates := false }, (r.pause c now).2, st,
        r.pauseEvents c now⟩) ∨
    (∃ e rest, r.attempts < r.plan.budget ∧ r.waiting = e :: rest ∧
      r.next R c now st = ⟨.ok e, .rounds (r.taking R c now rest st).value, (r.pause c now).2,
        (r.taking R c now rest st).state,
        r.pauseEvents c now ++ (r.taking R c now rest st).events⟩) := by
  have hw : (r.pause c now).1.waiting = r.waiting := by rw [pause_fst]
  have ha : (r.pause c now).1.attempts = r.attempts := by rw [pause_fst]
  by_cases hb : r.plan.budget ≤ r.attempts
  · exact Or.inl ⟨hb, by simp [next, hb]⟩
  · refine Or.inr ?_
    cases hr : r.waiting with
    | nil => exact Or.inl ⟨by omega, rfl, by simp [next, hb, hw, hr, ha]⟩
    | cons e rest =>
      exact Or.inr ⟨e, rest, by omega, rfl, by simp [next, hb, hw, hr, ha, taking]⟩

/-- The host is the first candidate that waits, as long as budget remains. -/
theorem host_eq (R : Roster σ) (r : Rounds) (c : Cancellation) (now : Nat) (st : σ) :
    (r.next R c now st).host =
      if r.plan.budget ≤ r.attempts then .error (.sessionExhausted r.attempts)
      else r.waiting.head?.elim (.error (.sessionExhausted r.attempts)) .ok := by
  obtain ⟨hb, h⟩ | ⟨hb, hw, h⟩ | ⟨e, rest, hb, hw, h⟩ := r.next_cases R c now st
  · rw [h, if_pos hb]
  · rw [h, if_neg (Nat.not_le.mpr hb), hw]
    rfl
  · rw [h, if_neg (Nat.not_le.mpr hb), hw]
    rfl

/-- The invariant of a session of rounds. -/
structure Consistent (r : Rounds) : Prop where
  within : r.attempts ≤ r.plan.budget
  candidates : r.attempts < r.plan.budget → (r.hasCandidates = true ↔ r.waiting ≠ [])

theorem refill_consistent (R : Roster σ) {r : Rounds} (st : σ) (hb : r.attempts ≤ r.plan.budget)
    (hc : r.waiting ≠ [] → r.hasCandidates = true) : (refill R r st).value.Consistent := by
  obtain ⟨_, _, h⟩ | ⟨hw, h⟩ := refill_cases R r st
  · rw [h]
    exact ⟨hb, fun _ => by simp⟩
  · rw [h]
    refine ⟨hb, fun hlt => ?_⟩
    have hne : r.waiting ≠ [] := hw.resolve_right (Nat.not_le.mpr hlt)
    exact ⟨fun _ => hne, fun _ => hc hne⟩

theorem taking_consistent (R : Roster σ) {r : Rounds} (hr : r.Consistent) (c : Cancellation)
    (now : Nat) {e : Endpoint} {rest : List Endpoint} (hw : r.waiting = e :: rest)
    (hb : r.attempts < r.plan.budget) (st : σ) : (r.taking R c now rest st).value.Consistent := by
  have hh : r.hasCandidates = true := (hr.candidates hb).mpr (by simp [hw])
  unfold taking
  apply refill_consistent
  · rw [pause_fst]; exact hb
  · intro _; rw [pause_fst]; exact hh

end Rounds

namespace Session

/-- The candidates that wait to be handed out. -/
def waiting : Session → List Endpoint
  | pass p => p.waiting
  | rounds r => r.waiting

/-- The invariant of a session; a single pass needs none. -/
def Consistent : Session → Prop
  | pass _ => True
  | rounds r => r.Consistent

theorem start_consistent (R : Roster σ) (policy : Policy) (supplied : Endpoint) (st : σ) :
    (start R policy supplied st).value.Consistent := by
  cases policy with
  | eachOnce => trivial
  | backoff plan => exact ⟨Nat.zero_le _, fun _ => by simp⟩

/-- **Every hand-out keeps the invariant**, also one that fails. -/
theorem next_consistent (R : Roster σ) {s : Session} (hs : s.Consistent) (c : Cancellation)
    (now : Nat) (st : σ) : (s.next R c now st).session.Consistent := by
  cases s with
  | pass p => trivial
  | rounds r =>
    show (r.next R c now st).session.Consistent
    obtain ⟨_, h⟩ | ⟨hb, hw, h⟩ | ⟨e, rest, hb, hw, h⟩ := r.next_cases R c now st
    · rw [h]; exact hs
    · rw [h]
      refine ⟨?_, fun _ => ?_⟩
      · rw [Rounds.pause_fst]; exact hs.within
      · rw [Rounds.pause_fst]; simp [hw]
    · rw [h]; exact Rounds.taking_consistent R hs c now hw hb st

/-! ## The promise -/

/-- **A session that may continue hands out a host**, even if the caller gives up before it is asked
    or while it pauses. -/
theorem next_ok (R : Roster σ) {s : Session} (hs : s.Consistent) {c : Cancellation} {now : Nat}
    (h : s.mayContinue c now = true) (c' : Cancellation) (later : Nat) (st : σ) :
    ∃ e, (s.next R c' later st).host = .ok e := by
  cases s with
  | pass p =>
    cases hw : p.waiting with
    | nil => simp [mayContinue, hw] at h
    | cons e rest => exact ⟨e, by simp [next, Pass.next, hw]⟩
  | rounds r =>
    simp only [mayContinue, Rounds.mayContinue, Bool.and_eq_true, decide_eq_true_eq] at h
    obtain ⟨⟨-, hc⟩, hlt⟩ := h
    have hne : r.waiting ≠ [] := (Rounds.Consistent.candidates hs hlt).mp hc
    show ∃ e, (r.next R c' later st).host = .ok e
    obtain ⟨hb, _⟩ | ⟨_, hw, _⟩ | ⟨e, rest, _, _, h⟩ := r.next_cases R c' later st
    · omega
    · exact absurd hw hne
    · exact ⟨e, by rw [h]⟩

/-- **A session that may not continue never may again**, not even after it is asked for a host all
    the same. -/
theorem next_stopped (R : Roster σ) {s : Session} (hs : s.Consistent) {c : Cancellation} {now : Nat}
    (h : s.mayContinue c now = false) (st : σ) :
    (s.next R c now st).session.mayContinue c (s.next R c now st).now = false := by
  cases s with
  | pass p =>
    have hw : p.waiting = [] := by simpa [mayContinue] using h
    simp [next, Pass.next, hw, mayContinue]
  | rounds r =>
    show (r.next R c now st).session.mayContinue c (r.next R c now st).now = false
    obtain ⟨_, hn⟩ | ⟨hb, hw, hn⟩ | ⟨e, rest, hb, hw, hn⟩ := r.next_cases R c now st
    · rw [hn]; exact h
    · rw [hn]; simp [mayContinue, Rounds.mayContinue]
    · -- A host waits and budget is left, so it is the caller who gave up.
      have hh : r.hasCandidates = true := (Rounds.Consistent.candidates hs hb).mpr (by simp [hw])
      have hgone : r.cancelled = true ∨ c.isCancelled now = true := by
        simp only [mayContinue, Rounds.mayContinue, hh, decide_eq_true hb, Bool.and_true] at h
        cases hc : r.cancelled
        · right; simpa [hc] using h
        · left; rfl
      rw [hn]
      rcases hgone with hc | hc
      · simp [mayContinue, Rounds.mayContinue, Rounds.taking, Rounds.pause_fst, hc]
      · have := c.isCancelled_mono (r.le_pause_snd c now) hc
        simp [mayContinue, Rounds.mayContinue, this]

/-- A host handed out is one attempt more; a refusal is none. -/
theorem attempts_next (R : Roster σ) (s : Session) (c : Cancellation) (now : Nat) (st : σ) :
    (s.next R c now st).session.attempts =
      s.attempts + (if (s.next R c now st).host.isOk then 1 else 0) := by
  cases s with
  | pass p => cases hw : p.waiting <;> simp [next, Pass.next, hw, attempts, Except.isOk, Except.toBool]
  | rounds r =>
    show (r.next R c now st).session.attempts = r.attempts + _
    obtain ⟨_, h⟩ | ⟨_, _, h⟩ | ⟨e, rest, _, _, h⟩ := r.next_cases R c now st
    · simp [next, h, attempts, Except.isOk, Except.toBool]
    · simp [next, h, attempts, Rounds.pause_fst, Except.isOk, Except.toBool]
    · simp [next, h, attempts, Rounds.taking, Except.isOk, Except.toBool]

/-- A host handed out is one less of those that can be. -/
theorem bound_next (R : Roster σ) {s : Session} {c : Cancellation} {now : Nat} {st : σ}
    {e : Endpoint} (h : (s.next R c now st).host = .ok e) :
    s.bound = (s.next R c now st).session.bound + 1 := by
  cases s with
  | pass p => cases hw : p.waiting <;> simp_all [next, Pass.next, bound]
  | rounds r =>
    change (r.next R c now st).host = .ok e at h
    show r.plan.budget - r.attempts = (r.next R c now st).session.bound + 1
    obtain ⟨_, hn⟩ | ⟨_, _, hn⟩ | ⟨e', rest, hb, _, hn⟩ := r.next_cases R c now st
    · rw [hn] at h; cases h
    · rw [hn] at h; cases h
    · rw [hn]
      simp only [bound, Rounds.taking, Rounds.refill_plan, Rounds.refill_attempts, Rounds.pause_fst]
      omega

/-- Together, what was handed out and what can be stay what they are. -/
theorem attempts_add_bound_next (R : Roster σ) (s : Session) (c : Cancellation) (now : Nat) (st : σ) :
    (s.next R c now st).session.attempts + (s.next R c now st).session.bound =
      s.attempts + s.bound := by
  cases s with
  | pass p =>
    cases hw : p.waiting <;> simp [next, Pass.next, hw, attempts, bound]
    omega
  | rounds r =>
    show (r.next R c now st).session.attempts + (r.next R c now st).session.bound =
      r.attempts + (r.plan.budget - r.attempts)
    obtain ⟨_, h⟩ | ⟨_, _, h⟩ | ⟨e, rest, hb, _, h⟩ := r.next_cases R c now st
    · rw [h]
      rfl
    · rw [h]
      simp only [attempts, bound, Rounds.pause_fst]
    · rw [h]
      simp only [attempts, bound, Rounds.taking, Rounds.refill_plan, Rounds.refill_attempts,
        Rounds.pause_fst]
      omega

/-- A host that is handed out was waiting. -/
theorem mem_waiting_of_next (R : Roster σ) {s : Session} {c : Cancellation} {now : Nat} {st : σ}
    {e : Endpoint} (h : (s.next R c now st).host = .ok e) : e ∈ s.waiting := by
  cases s with
  | pass p =>
    cases hw : p.waiting with
    | nil => simp [next, Pass.next, hw] at h
    | cons e' rest =>
      have he : e' = e := by simpa [next, Pass.next, hw] using h
      simp [waiting, hw, he]
  | rounds r =>
    change (r.next R c now st).host = .ok e at h
    show e ∈ r.waiting
    obtain ⟨-, hn⟩ | ⟨-, -, hn⟩ | ⟨e', rest, -, hw, hn⟩ := r.next_cases R c now st
    · rw [hn] at h
      cases h
    · rw [hn] at h
      cases h
    · rw [hn] at h
      cases h
      rw [hw]
      exact List.mem_cons_self

/-- What a session itself logs of a hand-out. -/
def pauseEvents (s : Session) (c : Cancellation) (now : Nat) : List Event :=
  match s with
  | pass _ => []
  | rounds r => if r.plan.budget ≤ r.attempts then [] else r.pauseEvents c now

/-- That is that a pause begins, and that its caller ended it. -/
theorem mem_pauseEvents {s : Session} {c : Cancellation} {now : Nat} {ev : Event}
    (h : ev ∈ s.pauseEvents c now) :
    (∃ attempt delay, ev = .backingOff attempt delay) ∨ ev = .backoffInterrupted := by
  cases s with
  | pass p => cases h
  | rounds r =>
    simp only [pauseEvents, Rounds.pauseEvents] at h
    split at h
    · cases h
    · split at h
      · cases h
      · rcases List.mem_cons.mp h with rfl | h
        · exact Or.inl ⟨_, _, rfl⟩
        · split at h
          · exact Or.inr (List.mem_singleton.mp h)
          · cases h

/-- **A hand-out leaves the roster alone, or asks it for candidates once**; what waits afterwards was
    waiting before, or is what it was offered. -/
theorem next_roster (R : Roster σ) (s : Session) (c : Cancellation) (now : Nat) (st : σ) :
    let h := s.next R c now st
    (h.state = st ∧ h.events = s.pauseEvents c now ∧ ∀ e ∈ h.session.waiting, e ∈ s.waiting) ∨
      ∃ supplied, h.state = (R.candidates supplied st).state ∧
        h.events = s.pauseEvents c now ++ (R.candidates supplied st).events ∧
        h.session.waiting = (R.candidates supplied st).value := by
  cases s with
  | pass p =>
    refine Or.inl ⟨rfl, rfl, ?_⟩
    intro e he
    cases hw : p.waiting with
    | nil => simp [next, Pass.next, waiting, hw] at he
    | cons e' rest =>
      have hrest : e ∈ rest := by simpa [next, Pass.next, waiting, hw] using he
      simpa [waiting, hw] using Or.inr hrest
  | rounds r =>
    intro h
    have hh : h = r.next R c now st := rfl
    clear_value h
    obtain ⟨hb, hn⟩ | ⟨hb, hw, hn⟩ | ⟨e, rest, hb, hw, hn⟩ := r.next_cases R c now st
    · rw [hh, hn, pauseEvents, if_pos hb]
      exact Or.inl ⟨rfl, rfl, fun _ he => he⟩
    · rw [hh, hn, pauseEvents, if_neg (Nat.not_le.mpr hb)]
      refine Or.inl ⟨rfl, rfl, ?_⟩
      intro e he
      rwa [waiting, Rounds.pause_fst] at he
    · rw [hh, hn, pauseEvents, if_neg (Nat.not_le.mpr hb)]
      unfold Rounds.taking
      obtain ⟨-, -, hr⟩ | ⟨-, hr⟩ := Rounds.refill_cases R
        { (r.pause c now).1 with waiting := rest, attempts := r.attempts + 1 } st
      · rw [hr]
        exact Or.inr ⟨_, rfl, rfl, rfl⟩
      · rw [hr]
        refine Or.inl ⟨rfl, List.append_nil _, ?_⟩
        intro x hx
        rw [waiting, hw]
        exact List.mem_cons_of_mem e hx

/-- Which host is handed out depends neither on the instant nor on the patience of the caller. -/
theorem host_next (R : Roster σ) (s : Session) (c c' : Cancellation) (now now' : Nat) (st : σ) :
    (s.next R c now st).host = (s.next R c' now' st).host := by
  cases s with
  | pass p => rfl
  | rounds r =>
    show (r.next R c now st).host = (r.next R c' now' st).host
    rw [Rounds.host_eq, Rounds.host_eq]

/-- The plan of a session of rounds stays what it was. -/
def plan? : Session → Option Backoff
  | pass _ => none
  | rounds r => some r.plan

theorem plan?_next (R : Roster σ) (s : Session) (c : Cancellation) (now : Nat) (st : σ) :
    (s.next R c now st).session.plan? = s.plan? := by
  cases s with
  | pass p => rfl
  | rounds r =>
    show (r.next R c now st).session.plan? = some r.plan
    obtain ⟨_, h⟩ | ⟨_, _, h⟩ | ⟨e, rest, _, _, h⟩ := r.next_cases R c now st
    · rw [h]; rfl
    · rw [h]; simp [plan?, Rounds.pause_fst]
    · rw [h]; simp [plan?, Rounds.taking, Rounds.pause_fst]

/-- The budget of a session of rounds. -/
def budget? : Session → Option Nat
  | pass _ => none
  | rounds r => some r.plan.budget

theorem budget?_eq (s : Session) : s.budget? = s.plan?.map (·.budget) := by cases s <;> rfl

theorem attempts_le_budget {s : Session} (hs : s.Consistent) {n : Nat} (h : s.budget? = some n) :
    s.attempts ≤ n := by
  cases s with
  | pass p => cases h
  | rounds r => cases h; exact hs.within

end Session

end Failover
