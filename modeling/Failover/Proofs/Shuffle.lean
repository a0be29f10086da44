import Failover.Shuffle
import Mathlib.Data.List.FinRange
import Mathlib.Data.List.Permutation
import Mathlib.Data.Set.Card
/-!
# Fair shuffles

Things are taken out one by one, each at a place drawn among those left.  No order comes up more often
than another.

* `Draws` : the numbers that can be drawn for so many things.  `Draws.iff_getElem`: each is below the
  number of things left at its turn.  `Dice.draws_draws`, `Dice.exists_draws_eq`: dice draw these, and
  any of them are drawn by some dice;
* `deal` : taking things out as long as any are left, with the ranges that are drawn from.
  `Draws.deal`: it takes one draw for each thing, and none that names no place;
* `arrange_perm`, `arrange_map` : the order holds what was there, and depends on the places alone;
* `arrange_bijOn` : **every order comes of exactly one sequence of draws**;
* `permute_unbiased` : all of this together.
-/

set_option autoImplicit false

namespace Failover

variable {α β : Type}

/-! ## Draws -/

/-- The numbers that can be drawn to take out `n` things one by one. -/
inductive Draws : Nat → List Nat → Prop where
  | done : Draws 0 []
  | next {n i : Nat} {is : List Nat} (bound : i < n + 1) (rest : Draws n is) : Draws (n + 1) (i :: is)

/-- There is a draw for each thing, and each is below the number of things left at its turn. -/
theorem Draws.iff_getElem : ∀ {n : Nat} {is : List Nat},
    Draws n is ↔ is.length = n ∧ ∀ (k : Nat) (h : k < is.length), is[k] < n - k
  | 0, is => by
    constructor
    · rintro ⟨⟩
      exact ⟨rfl, fun k h => absurd h (Nat.not_lt_zero k)⟩
    · rintro ⟨hlength, -⟩
      rw [List.length_eq_zero_iff.mp hlength]
      exact .done
  | n + 1, [] => by
    constructor
    · rintro ⟨⟩
    · rintro ⟨hlength, -⟩
      cases hlength
  | n + 1, i :: is => by
    constructor
    · intro h
      cases h with
      | next bound rest =>
        obtain ⟨hlength, hrest⟩ := iff_getElem.mp rest
        refine ⟨congrArg (· + 1) hlength, fun k hk => ?_⟩
        cases k with
        | zero => exact bound
        | succ k =>
          have hbelow := hrest k (Nat.lt_of_succ_lt_succ hk)
          rw [List.getElem_cons_succ]
          omega
    · rintro ⟨hlength, hbelow⟩
      refine .next (hbelow 0 (Nat.succ_pos _)) (iff_getElem.mpr ⟨Nat.succ.inj hlength, fun k h => ?_⟩)
      have hk := hbelow (k + 1) (Nat.succ_lt_succ h)
      rw [List.getElem_cons_succ] at hk
      omega

theorem Dice.below_lt (d : Dice) {k : Nat} (h : 0 < k) : (d.below k).1 < k := Nat.mod_lt _ h

/-- So do dice draw. -/
theorem Dice.draws_draws : ∀ (n : Nat) (d : Dice), Draws n (d.draws n).1
  | 0, _ => .done
  | n + 1, d => .next (d.below_lt n.succ_pos) (draws_draws n (d.below (n + 1)).2)

/-- Dice that show these numbers next draw them. -/
theorem Dice.draws_eq {n : Nat} {is : List Nat} (h : Draws n is) : ∀ d : Dice,
    (∀ (k : Nat) (hk : k < is.length), d.rolls (d.drawn + k) = is[k]) → (d.draws n).1 = is := by
  induction h with
  | done => exact fun _ _ => rfl
  | @next n i is bound _ ih =>
    intro d hd
    have hfirst : d.rolls d.drawn = i := hd 0 (Nat.succ_pos _)
    have hrest : (Dice.draws (d.below (n + 1)).2 n).1 = is := by
      refine ih _ fun k hk => ?_
      show d.rolls (d.drawn + 1 + k) = is[k]
      rw [Nat.add_assoc, Nat.add_comm 1 k]
      exact hd (k + 1) (Nat.succ_lt_succ hk)
    rw [draws, hrest, below, hfirst, Nat.mod_eq_of_lt bound]

/-- Whatever can be drawn is drawn by some dice. -/
theorem Dice.exists_draws_eq {n : Nat} {is : List Nat} (h : Draws n is) :
    ∃ d : Dice, (d.draws n).1 = is :=
  ⟨.fresh fun k => is[k]?.getD 0, draws_eq h _ fun k hk => by simp [fresh, hk]⟩

/-! ## Taking things out -/

/-- What it comes to when things are taken out one by one: their order, for each of them the number of things
    that it was drawn from, and the draws that were not needed. -/
structure Dealt (α : Type) where
  order : List α
  ranges : List Nat
  unused : List Nat

/-- Takes things out by these draws as long as any are left.  There is no result if a draw names no
    place among the things left, or if the draws do not suffice. -/
def deal : List Nat → List α → Option (Dealt α)
  | is, [] => some ⟨[], [], is⟩
  | [], _ :: _ => none
  | i :: is, x :: xs =>
    match (x :: xs)[i]? with
    | some y => (deal is ((x :: xs).eraseIdx i)).map fun d =>
      ⟨y :: d.order, (x :: xs).length :: d.ranges, d.unused⟩
    | none => none

/-- Ranges that shrink by one thing at a time, down to the last. -/
def countdown (n : Nat) : List Nat := (List.range' 1 n).reverse

theorem countdown_succ (n : Nat) : countdown (n + 1) = (n + 1) :: countdown n := by
  rw [countdown, countdown, List.range'_1_concat, List.reverse_append, Nat.add_comm 1 n]
  rfl

namespace Draws

variable {n i : Nat} {is js : List Nat} {xs : List α}

theorem length_eraseIdx (bound : i < n + 1) (hn : xs.length = n + 1) : (xs.eraseIdx i).length = n := by
  rw [List.length_eraseIdx_of_lt (by omega), hn]
  rfl

theorem arrange_cons (bound : i < n + 1) (hn : xs.length = n + 1) :
    arrange (i :: is) xs = xs[i] :: arrange is (xs.eraseIdx i) := by
  rw [arrange, List.getElem?_eq_getElem]

/-- **All things are taken out**, one for each draw, and no draw more is made. -/
theorem deal (h : Draws n is) : ∀ {xs : List α}, xs.length = n → ∀ more : List Nat,
    Failover.deal (is ++ more) xs = some ⟨arrange is xs, countdown n, more⟩ := by
  induction h with
  | done =>
    intro xs hn more
    rw [List.length_eq_zero_iff.mp hn]
    cases more <;> rfl
  | @next n i is bound rest ih =>
    intro xs hn more
    rw [arrange_cons bound hn, countdown_succ, ← hn]
    cases xs with
    | nil => cases hn
    | cons x xs =>
      have hi : i < (x :: xs).length := by omega
      rw [List.cons_append, Failover.deal, List.getElem?_eq_getElem hi]
      simp only [ih (length_eraseIdx bound hn) more, Option.map_some]

/-- Nothing is lost and nothing comes twice. -/
theorem arrange_perm (h : Draws n is) : ∀ {xs : List α}, xs.length = n →
    (arrange is xs).Perm xs := by
  induction h with
  | done =>
    intro xs hn
    rw [List.length_eq_zero_iff.mp hn]
    exact .refl []
  | @next n i is bound rest ih =>
    intro xs hn
    rw [arrange_cons bound hn]
    exact ((ih (length_eraseIdx bound hn)).cons _).trans (List.getElem_cons_eraseIdx_perm (by omega))

/-- Different draws give different orders of things that all differ. -/
theorem eq_of_arrange_eq (h : Draws n is) : ∀ {js : List Nat} {xs : List α}, Draws n js →
    xs.length = n → xs.Nodup → arrange is xs = arrange js xs → is = js := by
  induction h with
  | done =>
    rintro js xs ⟨⟩ - - -
    rfl
  | @next n i is bound rest ih =>
    intro js xs h' hn hnodup hsame
    cases h' with
    | next bound' rest' =>
      rw [arrange_cons bound hn, arrange_cons bound' hn] at hsame
      obtain ⟨hfirst, hothers⟩ := List.cons_eq_cons.mp hsame
      -- The thing that came first stands at one place only.
      obtain rfl := hnodup.getElem_inj_iff.mp hfirst
      rw [ih rest' (length_eraseIdx bound hn) (hnodup.eraseIdx i) hothers]

/-- Every order is one that draws make: the first thing is drawn at its place, and so are the others
    among those left. -/
theorem exists_arrange_eq [DecidableEq α] : ∀ {ys xs : List α}, ys.Perm xs →
    ∃ is, Draws xs.length is ∧ arrange is xs = ys
  | [], xs, h => by
    rw [← h.nil_eq]
    exact ⟨[], .done, rfl⟩
  | y :: ys, xs, h => by
    have hy : y ∈ xs := h.mem_iff.mp List.mem_cons_self
    have hlt : xs.idxOf y < xs.length := List.idxOf_lt_length_of_mem hy
    obtain ⟨n, hn⟩ : ∃ n, xs.length = n + 1 := ⟨xs.length - 1, by omega⟩
    have hothers : ys.Perm (xs.eraseIdx (xs.idxOf y)) := by
      rw [← List.erase_eq_eraseIdx_of_idxOf rfl]
      exact (List.cons_perm_iff_perm_erase.mp h).2
    obtain ⟨is, hdraws, harranged⟩ := exists_arrange_eq hothers
    rw [length_eraseIdx (hn ▸ hlt) hn] at hdraws
    refine ⟨xs.idxOf y :: is, ?_, ?_⟩
    · rw [hn]
      exact .next (hn ▸ hlt) hdraws
    · rw [arrange_cons (hn ▸ hlt) hn, harranged, List.getElem_idxOf hlt]

end Draws

/-- What stands at the places does not matter. -/
theorem arrange_map (f : α → β) : ∀ (is : List Nat) (xs : List α),
    arrange is (xs.map f) = (arrange is xs).map f
  | [], _ => rfl
  | i :: is, xs => by
    rw [arrange, arrange, List.getElem?_map]
    cases xs[i]? with
    | none => rfl
    | some x =>
      simp only [Option.map_some, List.map_cons]
      rw [List.eraseIdx_map, arrange_map f is]

/-- **Every order of `n` places comes of exactly one sequence of draws.** -/
theorem arrange_bijOn (n : Nat) :
    Set.BijOn (fun is => arrange is (List.finRange n)) {is | Draws n is}
      {places | places.Perm (List.finRange n)} := by
  have hn : (List.finRange n).length = n := List.length_finRange
  refine ⟨fun is h => h.arrange_perm hn, fun is h js h' => ?_, fun places h => ?_⟩
  · exact h.eq_of_arrange_eq h' hn (List.nodup_finRange n)
  · have hperm : places.Perm (List.finRange n) := h
    have hdraws := Draws.exists_arrange_eq hperm
    rwa [hn] at hdraws

/-- There are `n!` orders of `n` places. -/
theorem ncard_orders (n : Nat) :
    {places : List (Fin n) | places.Perm (List.finRange n)}.ncard = n.factorial := by
  have hset : {places : List (Fin n) | places.Perm (List.finRange n)} =
      ((List.finRange n).permutations.toFinset : Set (List (Fin n))) := by
    ext places
    simp [List.mem_permutations]
  rw [hset, Set.ncard_coe_finset,
    List.toFinset_card_of_nodup (List.nodup_permutations _ (List.nodup_finRange n)),
    List.length_permutations, List.length_finRange]

theorem permute_perm (d : Dice) (xs : List α) : (permute d xs).1.Perm xs :=
  (d.draws_draws xs.length).arrange_perm rfl

/-- **The shuffle is fair.**

    * By draws that are each below the number of things left, all things are taken out.  That takes
      one draw for each of them, from ranges that shrink down to a single thing, however many more
      draws there would be; the order holds what was there, each thing as often as before;
    * the order of the things is that of their places, and this is one of `n!` orders, each of which
      comes of exactly one sequence of draws;
    * dice draw in this way, and a random order is what comes of their draws. -/
theorem permute_unbiased (xs : List α) :
    (∀ is, (is.length = xs.length ∧ ∀ (k : Nat) (h : k < is.length), is[k] < xs.length - k) →
      (∀ more, deal (is ++ more) xs = some ⟨arrange is xs, countdown xs.length, more⟩) ∧
        (arrange is xs).Perm xs ∧
        arrange is xs = (arrange is (List.finRange xs.length)).map xs.get) ∧
      Set.BijOn (fun is => arrange is (List.finRange xs.length))
        {is | is.length = xs.length ∧ ∀ (k : Nat) (h : k < is.length), is[k] < xs.length - k}
        {places | places.Perm (List.finRange xs.length)} ∧
      {places : List (Fin xs.length) | places.Perm (List.finRange xs.length)}.ncard =
        xs.length.factorial ∧
      ∀ d : Dice, Draws xs.length (d.draws xs.length).1 ∧
        deal (d.draws xs.length).1 xs = some ⟨(permute d xs).1, countdown xs.length, []⟩ := by
  simp only [← Draws.iff_getElem]
  refine ⟨fun is h => ⟨fun more => h.deal rfl more, h.arrange_perm rfl, ?_⟩,
    arrange_bijOn xs.length, ncard_orders xs.length, fun d => ?_⟩
  · rw [← arrange_map, List.map_get_finRange]
  · have hdraws := d.draws_draws xs.length
    refine ⟨hdraws, ?_⟩
    rw [← List.append_nil (d.draws xs.length).1]
    exact hdraws.deal rfl []

end Failover
