/-!
# Random order

* `Dice` : numbers to draw from; `Dice.below` draws one below a bound;
* `Dice.draws` : the draws that order so many things: each below the number of things left;
* `arrange` : the order that draws make, each taking one of the things left;
* `permute` : a random order.
-/

set_option autoImplicit false

namespace Failover

/-- Numbers to draw from, and how many of them were drawn before. They may be any numbers. -/
structure Dice where
  rolls : Nat → Nat
  drawn : Nat

namespace Dice

/-- Dice that have not been used. -/
def fresh (rolls : Nat → Nat) : Dice := ⟨rolls, 0⟩

/-- Dice that show zero each time. -/
def zeros : Dice := fresh fun _ => 0

/-- A number below `k`, if that is not zero. -/
def below (d : Dice) (k : Nat) : Nat × Dice :=
  (d.rolls d.drawn % k, { d with drawn := d.drawn + 1 })

/-- Two dice that share the numbers: what one draws says nothing of the other. -/
def halves (d : Dice) : Dice × Dice :=
  (fresh fun n => d.rolls (d.drawn + 2 * n), fresh fun n => d.rolls (d.drawn + 2 * n + 1))

/-- Draws below `k`, `k - 1` and so on down to one. -/
def draws (d : Dice) : Nat → List Nat × Dice
  | 0 => ([], d)
  | k + 1 =>
    let r := d.below (k + 1)
    let rest := draws r.2 k
    (r.1 :: rest.1, rest.2)

end Dice

/-- Takes things out one by one, each at the place that a draw names among those left. -/
def arrange {α : Type} : List Nat → List α → List α
  | [], _ => []
  | i :: is, xs =>
    match xs[i]? with
    | some x => x :: arrange is (xs.eraseIdx i)
    | none => []

/-- The things in a random order. -/
def permute {α : Type} (d : Dice) (xs : List α) : List α × Dice :=
  let r := d.draws xs.length
  (arrange r.1 xs, r.2)

end Failover
