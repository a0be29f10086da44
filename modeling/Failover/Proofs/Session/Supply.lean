import Failover.Proofs.Session.Next
import Failover.Session
/-!
# The hosts that a session of rounds hands out

A roster answers successive requests for candidates with one list after another.  A session of rounds
that is asked for hosts as long as it may continue, and whose caller waits as long as it takes, hands
out these lists one behind the other, up to the first empty one and up to its budget.

* `Roster.answerAt`, `Roster.stateAfter` : the lists, and the state after so many requests;
* `Roster.counting` : a roster that also counts the requests;
* `Supply.hosts` : the lists one behind the other, up to the first empty one;
* `Supply.turnovers` : how many lists have been used up while budget was left;
* `LiveSession.drain_rounds` : hosts and requests from any state on, by induction on the turns;
* `LiveSession.drain_backoff` : hosts and requests of a whole session.
-/

set_option autoImplicit false

namespace Failover

variable {σ : Type}

namespace Roster

/-- The state after `n` requests for candidates. -/
def stateAfter (R : Roster σ) (e : Endpoint) (st : σ) : Nat → σ
  | 0 => st
  | n + 1 => (R.candidates e (R.stateAfter e st n)).state

/-- The answer to request number `n` for candidates, the first being number zero. -/
def answerAt (R : Roster σ) (e : Endpoint) (st : σ) (n : Nat) : List Endpoint :=
  (R.candidates e (R.stateAfter e st n)).value

theorem stateAfter_succ (R : Roster σ) (e : Endpoint) (st : σ) : ∀ n,
    R.stateAfter e st (n + 1) = R.stateAfter e (R.candidates e st).state n
  | 0 => rfl
  | n + 1 => congrArg (fun s => (R.candidates e s).state) (stateAfter_succ R e st n)

theorem answerAt_succ (R : Roster σ) (e : Endpoint) (st : σ) (n : Nat) :
    R.answerAt e st (n + 1) = R.answerAt e (R.candidates e st).state n := by
  unfold answerAt
  rw [stateAfter_succ]

/-- The same roster, counting the requests for candidates. -/
def counting (R : Roster σ) : Roster (σ × Nat) where
  candidates e s :=
    let r := R.candidates e s.1
    ⟨r.value, (r.state, s.2 + 1), r.events⟩
  supports s e := R.supports s.1 e
  report e s := (R.report e s.1).mapState (·, s.2)

theorem counting_stateAfter (R : Roster σ) (e : Endpoint) (st : σ) (k : Nat) : ∀ n,
    R.counting.stateAfter e (st, k) n = (R.stateAfter e st n, k + n)
  | 0 => rfl
  | n + 1 => by
    show (R.counting.candidates e (R.counting.stateAfter e (st, k) n)).state = _
    rw [counting_stateAfter R e st k n]
    rfl

theorem counting_answerAt (R : Roster σ) (e : Endpoint) (st : σ) (k : Nat) :
    R.counting.answerAt e (st, k) = R.answerAt e st := by
  funext n
  unfold answerAt
  rw [counting_stateAfter]
  rfl

end Roster

/-! ## Lists one behind the other -/

namespace Supply

/-- The first `n` lists one behind the other, up to the first empty one. -/
def hosts (lists : Nat → List Endpoint) (n : Nat) : List Endpoint :=
  (((List.range n).map lists).takeWhile (!·.isEmpty)).flatten

/-- How many hosts there are in list number `i` and those before it. -/
def total (lists : Nat → List Endpoint) (i : Nat) : Nat :=
  ((List.range (i + 1)).flatMap lists).length

/-- List number `i` is used up after so many turns, and budget is left.  A list behind an empty one is
    never come to. -/
def UsedUp (lists : Nat → List Endpoint) (budget turns i : Nat) : Prop :=
  (∀ j ≤ i, lists j ≠ []) ∧ total lists i ≤ turns ∧ total lists i < budget

instance (lists : Nat → List Endpoint) (budget turns i : Nat) :
    Decidable (UsedUp lists budget turns i) :=
  inferInstanceAs (Decidable (_ ∧ _ ∧ _))

/-- How many of the first `n` lists are used up after so many turns while budget is left. -/
def turnovers (lists : Nat → List Endpoint) (budget turns n : Nat) : Nat :=
  (List.range n).countP fun i => UsedUp lists budget turns i

/-- One list before others. -/
def before (first : List Endpoint) (lists : Nat → List Endpoint) : Nat → List Endpoint
  | 0 => first
  | n + 1 => lists n

theorem before_shift (lists : Nat → List Endpoint) :
    before (lists 0) (fun i => lists (i + 1)) = lists := by
  funext n
  cases n <;> rfl

theorem hosts_before (first : List Endpoint) (lists : Nat → List Endpoint) (n : Nat) :
    hosts (before first lists) (n + 1) = if first = [] then [] else first ++ hosts lists n := by
  unfold hosts
  rw [List.range_succ_eq_map, List.map_cons, List.map_map, List.takeWhile_cons]
  by_cases h : first = []
  · simp [before, h]
  · have : (before first lists) ∘ Nat.succ = lists := rfl
    simp [before, h, this]

theorem total_before_succ (first : List Endpoint) (lists : Nat → List Endpoint) (i : Nat) :
    total (before first lists) (i + 1) = first.length + total lists i := by
  unfold total
  rw [List.range_succ_eq_map, List.flatMap_cons, List.length_append, List.flatMap_map]
  rfl

theorem usedUp_before_zero (first : List Endpoint) (lists : Nat → List Endpoint)
    (budget turns : Nat) :
    UsedUp (before first lists) budget turns 0 ↔
      first ≠ [] ∧ first.length ≤ turns ∧ first.length < budget := by
  simp [UsedUp, total, before]

/-- A list behind the first is used up when the first is, and then itself by the turns that are
    left. -/
theorem usedUp_before_succ (first : List Endpoint) (lists : Nat → List Endpoint)
    (budget turns i : Nat) :
    UsedUp (before first lists) budget turns (i + 1) ↔
      UsedUp (before first lists) budget turns 0 ∧
        UsedUp lists (budget - first.length) (turns - first.length) i := by
  rw [usedUp_before_zero]
  unfold UsedUp
  rw [total_before_succ]
  constructor
  · rintro ⟨hne, ht, hb⟩
    exact ⟨⟨hne 0 (Nat.zero_le _), by omega, by omega⟩,
      fun j hj => hne (j + 1) (Nat.succ_le_succ hj), by omega, by omega⟩
  · rintro ⟨⟨h0, _, _⟩, hne, ht, hb⟩
    refine ⟨fun j hj => ?_, by omega, by omega⟩
    cases j with
    | zero => exact h0
    | succ j => exact hne j (Nat.le_of_succ_le_succ hj)

/-- The first list is used up once, and then those behind it. -/
theorem turnovers_before (first : List Endpoint) (lists : Nat → List Endpoint)
    (budget turns n : Nat) :
    turnovers (before first lists) budget turns (n + 1) =
      if UsedUp (before first lists) budget turns 0 then
        turnovers lists (budget - first.length) (turns - first.length) n + 1
      else 0 := by
  unfold turnovers
  rw [List.range_succ_eq_map, List.countP_cons, List.countP_map]
  by_cases h : UsedUp (before first lists) budget turns 0
  · rw [if_pos h, if_pos (decide_eq_true h)]
    congr 1
    apply List.countP_congr
    intro i _
    simp [usedUp_before_succ, h]
  · rw [if_neg h, if_neg (by simpa using h), List.countP_eq_zero.mpr]
    intro i _
    simp [usedUp_before_succ, h]

theorem turnovers_of_no_turns (lists : Nat → List Endpoint) (budget n : Nat) :
    turnovers lists budget 0 n = 0 := by
  cases n with
  | zero => rfl
  | succ n =>
    rw [← before_shift lists, turnovers_before, if_neg]
    rw [usedUp_before_zero]
    rintro ⟨hne, h, -⟩
    exact hne (List.length_eq_zero_iff.mp (by omega))

theorem turnovers_of_no_budget (lists : Nat → List Endpoint) (turns n : Nat) :
    turnovers lists 0 turns n = 0 := by
  cases n with
  | zero => rfl
  | succ n =>
    rw [← before_shift lists, turnovers_before, if_neg]
    rw [usedUp_before_zero]
    omega

/-! ### One turn -/

theorem hosts_before_nil (lists : Nat → List Endpoint) (n : Nat) : hosts (before [] lists) n = [] := by
  cases n with
  | zero => rfl
  | succ n => rw [hosts_before, if_pos rfl]

theorem turnovers_before_nil (lists : Nat → List Endpoint) (budget turns n : Nat) :
    turnovers (before [] lists) budget turns n = 0 := by
  cases n with
  | zero => rfl
  | succ n =>
    rw [turnovers_before, if_neg]
    rw [usedUp_before_zero]
    exact fun h => h.1 rfl

/-- A host is taken and no list is asked for, as others wait or it is the last of the budget. -/
theorem take_hosts_before_cons {e : Endpoint} {rest : List Endpoint} {budget n : Nat}
    (lists : Nat → List Endpoint) (hb : 0 < budget) (hn : budget ≤ n)
    (h : rest ≠ [] ∨ budget ≤ 1) :
    (hosts (before (e :: rest) lists) n).take budget =
      e :: (hosts (before rest lists) n).take (budget - 1) := by
  obtain ⟨n, rfl⟩ : ∃ m, n = m + 1 := ⟨n - 1, by omega⟩
  obtain ⟨budget, rfl⟩ : ∃ b, budget = b + 1 := ⟨budget - 1, by omega⟩
  rw [hosts_before, if_neg (List.cons_ne_nil e rest), List.cons_append, List.take_succ_cons,
    Nat.add_sub_cancel]
  rcases h with hrest | hone
  · rw [hosts_before, if_neg hrest]
  · obtain rfl : budget = 0 := by omega
    simp

theorem turnovers_before_cons {e : Endpoint} {rest : List Endpoint} {budget : Nat}
    (lists : Nat → List Endpoint) (turns n : Nat) (h : rest ≠ [] ∨ budget ≤ 1) :
    turnovers (before (e :: rest) lists) budget (turns + 1) n =
      turnovers (before rest lists) (budget - 1) turns n := by
  cases n with
  | zero => rfl
  | succ n =>
    have hiff : UsedUp (before (e :: rest) lists) budget (turns + 1) 0 ↔
        UsedUp (before rest lists) (budget - 1) turns 0 := by
      rw [usedUp_before_zero, usedUp_before_zero, List.length_cons]
      constructor
      · rintro ⟨-, ht, hb⟩
        exact ⟨h.resolve_right (by omega), by omega, by omega⟩
      · rintro ⟨-, ht, hb⟩
        exact ⟨List.cons_ne_nil e rest, by omega, by omega⟩
    have hleft : budget - (rest.length + 1) = budget - 1 - rest.length := by omega
    rw [turnovers_before, turnovers_before]
    by_cases h0 : UsedUp (before rest lists) (budget - 1) turns 0
    · rw [if_pos h0, if_pos (hiff.mpr h0), List.length_cons, Nat.add_sub_add_right, hleft]
    · rw [if_neg h0, if_neg (mt hiff.mp h0)]

/-- A host is taken that is the last of its list, and the next list comes to wait. -/
theorem take_hosts_before_singleton {e : Endpoint} {budget : Nat} (lists : Nat → List Endpoint)
    (n : Nat) (hb : 0 < budget) :
    (hosts (before [e] lists) (n + 1)).take budget = e :: (hosts lists n).take (budget - 1) := by
  obtain ⟨budget, rfl⟩ : ∃ b, budget = b + 1 := ⟨budget - 1, by omega⟩
  rw [hosts_before, if_neg (List.cons_ne_nil e []), List.cons_append, List.nil_append,
    List.take_succ_cons, Nat.add_sub_cancel]

theorem turnovers_before_singleton {e : Endpoint} {budget : Nat} (lists : Nat → List Endpoint)
    (turns n : Nat) (hb : 1 < budget) :
    turnovers (before [e] lists) budget (turns + 1) (n + 1) =
      turnovers lists (budget - 1) turns n + 1 := by
  rw [turnovers_before, if_pos]
  · rfl
  · rw [usedUp_before_zero]
    exact ⟨List.cons_ne_nil e [], by simp, hb⟩

/-- The same list again and again, one host at a time. -/
theorem hosts_const_getElem? {xs : List Endpoint} (hne : xs ≠ []) : ∀ (n i : Nat), i < n * xs.length →
    (hosts (fun _ => xs) n)[i]? = xs[i % xs.length]?
  | 0, i, h => by omega
  | n + 1, i, h => by
    have hc : (fun _ : Nat => xs) = before xs (fun _ => xs) := by funext n; cases n <;> rfl
    have hs : hosts (fun _ => xs) (n + 1) = xs ++ hosts (fun _ => xs) n := by
      conv => lhs; rw [hc, hosts_before, if_neg hne]
    rw [hs]
    by_cases hi : i < xs.length
    · rw [List.getElem?_append_left hi, Nat.mod_eq_of_lt hi]
    · have hlen : xs.length ≤ i := Nat.le_of_not_lt hi
      rw [List.getElem?_append_right hlen, hosts_const_getElem? hne n, Nat.mod_eq_sub_mod hlen]
      rw [Nat.succ_mul] at h
      omega

end Supply

/-- The answer to this request and those to the ones after it. -/
theorem Roster.before_answerAt (R : Roster σ) (e : Endpoint) (st : σ) :
    Supply.before (R.candidates e st).value (R.answerAt e (R.candidates e st).state) =
      R.answerAt e st := by
  funext n
  cases n with
  | zero => rfl
  | succ n => exact (R.answerAt_succ e st n).symm

/-! ## Turn by turn -/

/-- A session of rounds that may continue, with a caller that waits as long as it takes, hands out the
    first host that waits.  It asks for candidates again if this was the last one and budget is left. -/
theorem Rounds.next_never (R : Roster σ) {r : Rounds} (hr : r.Consistent) (now : Nat) (st : σ)
    (h : r.mayContinue .never now = true) :
    ∃ e rest, r.waiting = e :: rest ∧ r.attempts < r.plan.budget ∧
      (((rest ≠ [] ∨ r.plan.budget ≤ r.attempts + 1) ∧
        r.next R .never now st = ⟨.ok e,
          .rounds { r with waiting := rest, attempts := r.attempts + 1 },
          (r.pause .never now).2, st, r.pauseEvents .never now⟩) ∨
      (rest = [] ∧ r.attempts + 1 < r.plan.budget ∧
        r.next R .never now st = ⟨.ok e,
          .rounds { r with
            waiting := (R.candidates r.supplied st).value
            hasCandidates := !(R.candidates r.supplied st).value.isEmpty
            attempts := r.attempts + 1 },
          (r.pause .never now).2, (R.candidates r.supplied st).state,
          r.pauseEvents .never now ++ (R.candidates r.supplied st).events⟩)) := by
  simp only [Rounds.mayContinue, Bool.and_eq_true, decide_eq_true_eq] at h
  obtain ⟨⟨-, hc⟩, hlt⟩ := h
  have hne : r.waiting ≠ [] := (hr.candidates hlt).mp hc
  obtain ⟨hb, _⟩ | ⟨_, hw, _⟩ | ⟨e, rest, hb, hw, hn⟩ := r.next_cases R .never now st
  · omega
  · exact absurd hw hne
  · refine ⟨e, rest, hw, hb, ?_⟩
    rw [hn, Rounds.taking, Rounds.pause_never_fst]
    obtain ⟨hrest, hleft, hf⟩ | ⟨hstay, hf⟩ :=
      Rounds.refill_cases R { r with waiting := rest, attempts := r.attempts + 1 } st
    · exact Or.inr ⟨hrest, hleft, by rw [hf]⟩
    · exact Or.inl ⟨hstay, by rw [hf, Reply.of, List.append_nil]⟩

namespace LiveSession

open Supply

/-- A session of rounds that may not continue although its caller waits has no host that waits, or no
    budget left. -/
theorem rounds_spent {r : Rounds} (hr : r.Consistent) (hc : r.cancelled = false) {now : Nat}
    (h : r.mayContinue .never now = false) : r.waiting = [] ∨ r.plan.budget ≤ r.attempts := by
  by_cases hb : r.plan.budget ≤ r.attempts
  · exact Or.inr hb
  · have hlt : r.attempts < r.plan.budget := by omega
    refine Or.inl (Classical.byContradiction fun hne => ?_)
    have := (hr.candidates hlt).mpr hne
    simp [Rounds.mayContinue, hc, this, hlt] at h

/-- A turn of a session that may continue. -/
theorem drain_succ (R : Roster σ) (turns : Nat) {s : LiveSession σ} (h : s.mayContinue = true) :
    drain R (turns + 1) s =
      (((s.next R).1, (s.next R).2.now) :: (drain R turns (s.next R).2).1,
        (drain R turns (s.next R).2).2) := by
  simp only [drain, h, if_true]

/-- **Hosts and requests from any state on.**  What waits counts as the first list, and the answers
    still to come as those behind it. -/
theorem drain_rounds (R : Roster σ) : ∀ (turns : Nat) {r : Rounds} (now : Nat) (st : σ) {n : Nat},
    r.Consistent → r.cancelled = false → r.plan.budget - r.attempts ≤ n →
    let lists := before r.waiting (R.answerAt r.supplied st)
    let run := drain R turns ⟨.rounds r, st, now, .never⟩
    run.1.map (·.1) = (((hosts lists n).take (r.plan.budget - r.attempts)).take turns).map .ok ∧
      run.2.state = R.stateAfter r.supplied st
        (turnovers lists (r.plan.budget - r.attempts) turns n)
  | 0, r, now, st, n, _, _, _ => by
    intro lists run
    refine ⟨by simp [run, drain], ?_⟩
    rw [turnovers_of_no_turns]
    rfl
  | turns + 1, r, now, st, n, hr, hc, hn => by
    intro lists run
    cases hm : r.mayContinue .never now with
    | false =>
      have hrun : run = ([], ⟨.rounds r, st, now, .never⟩) := drain_of_not_mayContinue R _ hm
      rw [hrun]
      rcases rounds_spent hr hc hm with hw | hb
      · have hl : lists = before [] (R.answerAt r.supplied st) := by rw [← hw]
        rw [hl, hosts_before_nil, turnovers_before_nil]
        exact ⟨by simp, rfl⟩
      · rw [Nat.sub_eq_zero_of_le hb, turnovers_of_no_budget]
        exact ⟨by simp, rfl⟩
    | true =>
      obtain ⟨e, rest, hw, hb, hturn⟩ := Rounds.next_never R hr now st hm
      have hcons := Session.next_consistent R (s := .rounds r) hr .never now st
      have hsub : r.plan.budget - (r.attempts + 1) = r.plan.budget - r.attempts - 1 := by omega
      have hl : lists = before (e :: rest) (R.answerAt r.supplied st) := by rw [← hw]
      have hrun : run = _ := drain_succ R turns hm
      rw [hrun, hl]
      simp only [LiveSession.next, Session.next]
      rcases hturn with ⟨hstay, hnext⟩ | ⟨rfl, hleft, hnext⟩
      · -- No request: the rest waits.
        simp only [Session.next, hnext] at hcons ⊢
        have hone : rest ≠ [] ∨ r.plan.budget - r.attempts ≤ 1 := hstay.imp_right (by omega)
        have hn' : r.plan.budget - (r.attempts + 1) ≤ n := by omega
        have ih := drain_rounds R turns (r.pause .never now).2 st hcons hc hn'
        simp only [hsub] at ih
        rw [take_hosts_before_cons _ (by omega) hn hone, turnovers_before_cons _ _ _ hone,
          List.map_cons, ih.1, ih.2]
        exact ⟨by simp, rfl⟩
      · -- The host was the last of its list, and the answer to the next request waits.
        simp only [Session.next, hnext] at hcons ⊢
        obtain ⟨m, rfl⟩ : ∃ m, n = m + 1 := ⟨n - 1, by omega⟩
        have hm' : r.plan.budget - (r.attempts + 1) ≤ m := by omega
        have ih := drain_rounds R turns (r.pause .never now).2 (R.candidates r.supplied st).state
          hcons hc hm'
        simp only [hsub, R.before_answerAt] at ih
        rw [take_hosts_before_singleton _ _ (by omega), turnovers_before_singleton _ _ _ (by omega),
          Roster.stateAfter_succ, List.map_cons, ih.1, ih.2]
        exact ⟨by simp, rfl⟩

/-- Turns enough for every host that can be handed out bring a session to its end. -/
theorem drain_ends (R : Roster σ) : ∀ (turns : Nat) {s : LiveSession σ}, s.session.Consistent →
    s.session.bound ≤ turns → (drain R turns s).2.mayContinue = false
  | 0, s, _, h => Session.mayContinue_of_bound_eq_zero (Nat.le_zero.mp h) s.cancellation s.now
  | turns + 1, s, hs, h => by
    cases hm : s.mayContinue with
    | false => rw [drain_of_not_mayContinue R _ hm]; exact hm
    | true =>
      obtain ⟨e, he⟩ := Session.next_ok R hs hm s.cancellation s.now s.state
      have hlt := Session.bound_next R he
      rw [drain_succ R turns hm]
      apply drain_ends R turns (Session.next_consistent R hs _ _ _)
      show (s.session.next R s.cancellation s.now s.state).session.bound ≤ turns
      omega

/-! ## Main theorem -/

/-- **A session of rounds hands out what its roster supplies.**  Asked for hosts as long as it may
    continue, by a caller that waits as long as it takes:

    * it hands out the lists of its roster one behind the other, up to the first empty one and up to
      its budget, and then ends;
    * by any turn, it has asked for candidates once to begin with and once for every list used up
      while budget was left;
    * a roster that always offers the same list has it handed out round and round. -/
theorem drain_backoff (R : Roster σ) (plan : Backoff) (supplied : Endpoint) (st : σ) :
    let lists := R.answerAt supplied st
    let run turns := drain R.counting turns
      (.start R.counting (.backoff plan) supplied .never (st, 0))
    (∀ turns, ∀ n ≥ plan.budget,
      let asked := 1 + turnovers lists plan.budget turns n
      (run turns).1.map (·.1) = (((hosts lists n).take plan.budget).take turns).map .ok ∧
        (run turns).2.state = (R.stateAfter supplied st asked, asked)) ∧
    (∀ turns ≥ plan.budget, (run turns).2.mayContinue = false) ∧
    ∀ xs ≠ [], (∀ i, lists i = xs) → ∀ turns ≥ plan.budget, ∀ i < plan.budget,
      ∃ e, xs[i % xs.length]? = some e ∧ ((run turns).1.map (·.1))[i]? = some (.ok e) := by
  intro lists run
  have hcons := Session.start_consistent R.counting (.backoff plan) supplied (st, 0)
  have hrun : ∀ turns, ∀ n ≥ plan.budget,
      (run turns).1.map (·.1) = (((hosts lists n).take plan.budget).take turns).map .ok ∧
        (run turns).2.state = R.counting.stateAfter supplied (st, 0)
          (1 + turnovers lists plan.budget turns n) := by
    intro turns n hn
    have h := drain_rounds R.counting turns 0 (R.counting.candidates supplied (st, 0)).state
      hcons rfl hn
    simp only [R.counting.before_answerAt, Nat.sub_zero, ← R.counting.stateAfter_succ] at h
    rw [R.counting_answerAt] at h
    rw [Nat.add_comm]
    exact h
  refine ⟨fun turns n hn => ?_, fun turns ht => drain_ends _ _ hcons ht, ?_⟩
  · obtain ⟨hhosts, hstate⟩ := hrun turns n hn
    refine ⟨hhosts, ?_⟩
    rw [hstate, R.counting_stateAfter, Nat.zero_add]
  · intro xs hne hall turns ht i hi
    have hpos : 0 < xs.length := List.length_pos_iff.mpr hne
    have hlt : i % xs.length < xs.length := Nat.mod_lt i hpos
    have hconst : lists = fun _ => xs := funext hall
    refine ⟨xs[i % xs.length], List.getElem?_eq_getElem hlt, ?_⟩
    rw [(hrun turns plan.budget (Nat.le_refl _)).1, List.getElem?_map,
      List.getElem?_take_of_lt (by omega), List.getElem?_take_of_lt hi, hconst,
      hosts_const_getElem? hne, List.getElem?_eq_getElem hlt]
    · rfl
    · exact Nat.lt_of_lt_of_le hi (Nat.le_mul_of_pos_right _ hpos)

end LiveSession

end Failover
