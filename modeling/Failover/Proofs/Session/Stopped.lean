import Failover.Proofs.Session.Usage
import Failover.Provider.Tree
/-!
# Sessions that may not continue

A session may not continue if it has nothing left to hand out, or if its caller has given up.  Only
the first of these ends it for good.

* `Session.Spent` : no budget is left, or no candidate waits.  Whether the next host is handed out
  depends on this and on nothing else: `Session.next_of_spent`, `Session.next_of_not_spent`;
* `Session.Heeds` : a pause is cut short only for a caller that has given up when it ends;
* `LiveSession.mayContinue_eq_false_iff` : the two reasons, after any use;
* `LiveSession.stopped_for_good_iff` : a session that may not continue hands out nothing more if it is
  spent, and otherwise goes on handing out whatever waits;
* `LiveSession.given_up_still_offers` : a session that does.
-/

set_option autoImplicit false

namespace Failover

variable {σ : Type}

namespace Session

/-- Nothing is left to hand out: the budget is used up, or no candidate waits. -/
def Spent (s : Session) : Prop := s.bound = 0 ∨ s.waiting = []

/-! ## What is handed out -/

/-- A spent session hands out nothing, and stays spent. -/
theorem next_of_spent (R : Roster σ) {s : Session} (h : s.Spent) (c : Cancellation) (now : Nat)
    (st : σ) : (s.next R c now st).host = .error (.sessionExhausted s.attempts) ∧
      (s.next R c now st).session.Spent := by
  cases s with
  | pass p =>
    have hw : p.waiting = [] := by
      rcases h with h | h
      · exact List.length_eq_zero_iff.mp h
      · exact h
    constructor
    · simp [next, Pass.next, hw, attempts]
    · right
      simp [next, Pass.next, hw, waiting]
  | rounds r =>
    show (r.next R c now st).host = .error (.sessionExhausted r.attempts) ∧
      (r.next R c now st).session.Spent
    obtain ⟨hb, hn⟩ | ⟨-, hw, hn⟩ | ⟨e, rest, hb, hw, -⟩ := r.next_cases R c now st
    · rw [hn]
      exact ⟨rfl, h⟩
    · rw [hn]
      refine ⟨rfl, Or.inr ?_⟩
      simp only [waiting, Rounds.pause_fst, hw]
    · rcases h with h | h
      · simp only [bound] at h
        omega
      · have hnone : r.waiting = [] := h
        rw [hw] at hnone
        cases hnone

/-- **Any other session hands out the first candidate that waits**, whether it may continue or not. -/
theorem next_of_not_spent (R : Roster σ) {s : Session} (h : ¬ s.Spent) (c : Cancellation)
    (now : Nat) (st : σ) :
    ∃ e, s.waiting.head? = some e ∧ (s.next R c now st).host = .ok e := by
  obtain ⟨hbound, hwait⟩ := not_or.mp h
  cases s with
  | pass p =>
    cases hw : p.waiting with
    | nil => exact absurd hw hwait
    | cons e rest => exact ⟨e, by simp [waiting, hw], by simp [next, Pass.next, hw]⟩
  | rounds r =>
    show ∃ e, r.waiting.head? = some e ∧ (r.next R c now st).host = .ok e
    obtain ⟨hb, -⟩ | ⟨-, hw, -⟩ | ⟨e, rest, -, hw, hn⟩ := r.next_cases R c now st
    · simp only [bound] at hbound
      omega
    · exact absurd hw hwait
    · exact ⟨e, by rw [hw]; rfl, by rw [hn]⟩

/-! ## Who stops it -/

/-- The session keeps to its caller: if it marked a pause as cut short, the caller has given up. -/
def Heeds (s : Session) (c : Cancellation) (now : Nat) : Prop :=
  match s with
  | pass _ => True
  | rounds r => r.cancelled = true → c.isCancelled now = true

theorem start_heeds (R : Roster σ) (policy : Policy) (supplied : Endpoint) (st : σ)
    (c : Cancellation) (now : Nat) : (start R policy supplied st).value.Heeds c now := by
  cases policy with
  | eachOnce => trivial
  | backoff plan =>
    intro h
    cases h

theorem Heeds.mono {s : Session} {c c' : Cancellation} {now later : Nat} (h : s.Heeds c now)
    (hc : c.isCancelled now = true → c'.isCancelled later = true) : s.Heeds c' later := by
  cases s with
  | pass p => trivial
  | rounds r => exact fun hcut => hc (h hcut)

/-- A wait that is cut short ends when the caller has given up. -/
theorem isCancelled_wakeAt {c : Cancellation} {now : Nat} {d : Duration}
    (h : c.cutsShort now d = true) : c.isCancelled (c.wakeAt now d) = true := by
  unfold Cancellation.cutsShort at h
  split at h
  · rename_i t ht
    have hlt : t < now + d.nanos := by simpa using h
    have hle : t ≤ min (now + d.nanos) (max now t) := by omega
    simpa [Cancellation.isCancelled, Cancellation.wakeAt, ht] using hle
  · cases h

/-- After the pause before the next host, the mark still tells of a caller that has given up. -/
theorem Heeds.pause {r : Rounds} {c : Cancellation} {now : Nat} (h : (rounds r).Heeds c now) :
    (r.pause c now).1.cancelled = true → c.isCancelled (r.pause c now).2 = true := by
  intro hcut
  rw [Rounds.pause_fst, Bool.or_eq_true, Bool.and_eq_true] at hcut
  rcases hcut with hcut | ⟨hlong, hcut⟩
  · exact c.isCancelled_mono (r.le_pause_snd c now) (h hcut)
  · have hnonzero : ¬ r.delay.nanos = 0 := by simpa using hlong
    have hwake : (r.pause c now).2 = c.wakeAt now r.delay := by
      rw [Rounds.pause, if_neg hnonzero]
    rw [hwake]
    exact isCancelled_wakeAt hcut

theorem next_heeds (R : Roster σ) {s : Session} {c : Cancellation} {now : Nat}
    (h : s.Heeds c now) (st : σ) :
    (s.next R c now st).session.Heeds c (s.next R c now st).now := by
  cases s with
  | pass p => trivial
  | rounds r =>
    show (r.next R c now st).session.Heeds c (r.next R c now st).now
    have hpause := h.pause
    obtain ⟨-, hn⟩ | ⟨-, -, hn⟩ | ⟨e, rest, -, -, hn⟩ := r.next_cases R c now st
    · rw [hn]
      exact h
    · rw [hn]
      exact hpause
    · rw [hn]
      intro hcut
      rw [Rounds.taking, Rounds.refill_cancelled] at hcut
      exact hpause hcut

/-- A session that keeps to its caller may continue unless it is spent, or has a budget and a caller
    that has given up. -/
theorem mayContinue_iff {s : Session} (hs : s.Consistent) {c : Cancellation} {now : Nat}
    (hc : s.Heeds c now) : s.mayContinue c now = true ↔
      ¬ s.Spent ∧ (s.budget? ≠ none → c.isCancelled now = false) := by
  cases s with
  | pass p => cases hw : p.waiting <;> simp [mayContinue, Spent, bound, waiting, budget?, hw]
  | rounds r =>
    have hbudget : (rounds r).budget? ≠ none := by simp [budget?]
    simp only [hbudget, mayContinue, Rounds.mayContinue, ne_eq, not_false_eq_true, true_imp_iff,
      Bool.and_eq_true, Bool.not_eq_true', decide_eq_true_eq]
    constructor
    · rintro ⟨⟨⟨-, hc⟩, hh⟩, hlt⟩
      refine ⟨?_, hc⟩
      rintro (h | h)
      · simp only [bound] at h
        omega
      · exact (hs.candidates hlt).mp hh h
    · rintro ⟨hs', hc'⟩
      obtain ⟨hbound, hwait⟩ := not_or.mp hs'
      have hlt : r.attempts < r.plan.budget := by
        simp only [bound] at hbound
        omega
      have hmark : r.cancelled = false := by
        apply Bool.eq_false_iff.mpr
        intro hcut
        have hgone : c.isCancelled now = true := hc hcut
        rw [hc'] at hgone
        cases hgone
      exact ⟨⟨⟨hmark, hc'⟩, (hs.candidates hlt).mpr hwait⟩, hlt⟩

end Session

namespace LiveSession

/-! ## Operations one after another -/

theorem perform_heeds (R : Roster σ) {s : LiveSession σ} (h : s.session.Heeds s.cancellation s.now)
    (op : Operation) : (s.perform R op).2.session.Heeds (s.perform R op).2.cancellation
      (s.perform R op).2.now := by
  cases op with
  | next => exact Session.next_heeds R h s.state
  | ask | report => exact h
  | cancelAt t => exact h.mono fun hc => isCancelled_orAt hc t
  | wait d => exact h.mono (s.cancellation.isCancelled_mono (Nat.le_add_right _ _))

theorem use_heeds (R : Roster σ) : ∀ (ops : List Operation) {s : LiveSession σ},
    s.session.Heeds s.cancellation s.now →
      (s.use R ops).2.session.Heeds (s.use R ops).2.cancellation (s.use R ops).2.now
  | [], _, h => h
  | op :: ops, _, h => use_heeds R ops (perform_heeds R h op)

/-- Whatever is done with a spent session, every request for a host is refused with the same count of
    attempts. -/
theorem use_spent (R : Roster σ) : ∀ (ops : List Operation) {s : LiveSession σ}, s.session.Spent →
    (∀ h, Answer.host h ∈ (s.use R ops).1 → h = .error (.sessionExhausted s.session.attempts)) ∧
      (s.use R ops).2.session.attempts = s.session.attempts
  | [], s, _ => by
    refine ⟨?_, rfl⟩
    intro h hh
    cases hh
  | op :: ops, s, hs => by
    have hop : (s.perform R op).2.session.Spent ∧
        (s.perform R op).2.session.attempts = s.session.attempts ∧
        ∀ h, (s.perform R op).1 = .host h → h = .error (.sessionExhausted s.session.attempts) := by
      cases op with
      | next =>
        obtain ⟨hhost, hspent⟩ :=
          Session.next_of_spent R hs s.cancellation s.now s.state
        have hcount := s.session.attempts_next R s.cancellation s.now s.state
        rw [hhost] at hcount
        refine ⟨hspent, hcount, ?_⟩
        intro h hh
        cases hh
        exact hhost
      | ask | report | cancelAt | wait =>
        refine ⟨hs, rfl, ?_⟩
        intro h hh
        cases hh
    obtain ⟨hspent, hcount, hanswer⟩ := hop
    obtain ⟨hrest, hlast⟩ := use_spent R ops hspent
    rw [hcount] at hrest hlast
    refine ⟨?_, hlast⟩
    intro h hh
    rcases List.mem_cons.mp hh with hh | hh
    · exact hanswer h hh.symm
    · exact hrest h hh

/-- The two reasons why a session may not continue, whatever was done with it: it is spent, or its
    policy has a budget and its caller has given up. -/
theorem mayContinue_eq_false_iff (R : Roster σ) (policy : Policy) (supplied : Endpoint)
    (c : Cancellation) (st : σ) (ops : List Operation) :
    let used := ((LiveSession.start R policy supplied c st).use R ops).2
    used.mayContinue = false ↔
      used.session.Spent ∨ (policy ≠ .eachOnce ∧ used.cancellation.isCancelled used.now = true) := by
  intro used
  have hs : used.session.Consistent :=
    use_consistent R ops (Session.start_consistent R policy supplied st)
  have hc : used.session.Heeds used.cancellation used.now :=
    use_heeds R ops (Session.start_heeds R policy supplied st c 0)
  have hbudget : used.session.budget? ≠ none ↔ policy ≠ .eachOnce := by
    have hsame : used.session.budget? = _ := use_budget? R ops _
    rw [hsame]
    cases policy <;> simp [LiveSession.start, Session.start, Session.budget?]
  have hiff : used.mayContinue = true ↔ _ := Session.mayContinue_iff hs hc
  rw [hbudget] at hiff
  rw [← Bool.not_eq_true, hiff, Classical.not_and_iff_not_or_not, Classical.not_not,
    Classical.not_imp, Bool.not_eq_false]

/-! ## Main theorem -/

/-- **What a session that may not continue still hands out.**  After any use of it, a session may not
    continue just when it is spent, or its policy has a budget and its caller has given up.

    * If it is spent, no host is ever handed out again, whatever is done with it: every request is
      refused as exhausted, and the count of attempts stays.
    * If it is not, the next request is answered with the first candidate that waits and counts as an
      attempt, although the caller has given up. -/
theorem stopped_for_good_iff (R : Roster σ) (policy : Policy) (supplied : Endpoint)
    (c : Cancellation) (st : σ) (ops : List Operation) :
    let used := ((LiveSession.start R policy supplied c st).use R ops).2
    (used.mayContinue = false ↔
      used.session.Spent ∨
        (policy ≠ .eachOnce ∧ used.cancellation.isCancelled used.now = true)) ∧
    (used.session.Spent → ∀ after,
      (∀ h, Answer.host h ∈ (used.use R after).1 →
        h = .error (.sessionExhausted used.session.attempts)) ∧
      (used.use R after).2.session.attempts = used.session.attempts) ∧
    (¬ used.session.Spent → ∀ between, Operation.next ∉ between →
      let asked := (used.use R between).2.next R
      ∃ e, used.session.waiting.head? = some e ∧ asked.1 = .ok e ∧
        asked.2.session.attempts = used.session.attempts + 1) := by
  intro used
  refine ⟨mayContinue_eq_false_iff R policy supplied c st ops, ?_, ?_⟩
  · intro hspent after
    exact use_spent R after hspent
  · intro hleft between hnone asked
    have hsession : (used.use R between).2.session = used.session := use_session R between used hnone
    have hleft' : ¬ (used.use R between).2.session.Spent := by
      rw [hsession]
      exact hleft
    obtain ⟨e, hhead, hhost⟩ := Session.next_of_not_spent R hleft'
      (used.use R between).2.cancellation (used.use R between).2.now (used.use R between).2.state
    have hcount := (used.use R between).2.session.attempts_next R
      (used.use R between).2.cancellation (used.use R between).2.now (used.use R between).2.state
    rw [hhost] at hcount
    rw [hsession] at hhead
    refine ⟨e, hhead, hhost, ?_⟩
    rw [← hsession]
    exact hcount

/-- A session whose caller gives up at once may not continue, and hands out a host all the same. -/
theorem given_up_still_offers :
    let s := LiveSession.start Provider.roster (.backoff ⟨3, .zero⟩) (.of "a" (some 1)) ⟨some 0⟩
      (.leaf (.fixed [.of "a" (some 1), .of "b" (some 2)]))
    s.mayContinue = false ∧ s.session.attempts = 0 ∧
      (s.next Provider.roster).1 = .ok (.of "a" (some 1)) ∧
      (s.next Provider.roster).2.session.attempts = 1 :=
  ⟨rfl, rfl, rfl, rfl⟩

end LiveSession

end Failover
