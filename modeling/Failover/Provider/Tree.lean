import Failover.Provider.Source
/-!
# Chained sources of candidates

* `Tree` : sources, and chains of such trees;
* `Tree.roster` : a chain offers the candidates of all its parts in order, stands in for whatever
  one of them stands in for, and hands a report of failure to the first such part;
* `Tree.leaves` : the sources from left to right;
* `Provider` : trees of the sources of this library.
-/

set_option autoImplicit false

namespace Failover

/-- Sources and chains of them. -/
inductive Tree (α : Type) where
  | leaf (a : α)
  | chain (parts : List (Tree α))

namespace Tree

variable {α : Type}

mutual

/-- Candidates of a tree for an endpoint. -/
def candidates (R : Roster α) (e : Endpoint) : Tree α → Reply (Tree α) (List Endpoint)
  | leaf a => (R.candidates e a).mapState leaf
  | chain parts => (candidatesOfAll R e parts).mapState chain

/-- Candidates of trees one after another. -/
def candidatesOfAll (R : Roster α) (e : Endpoint) :
    List (Tree α) → Reply (List (Tree α)) (List Endpoint)
  | [] => .of [] []
  | t :: ts =>
    let r := candidates R e t
    let rest := candidatesOfAll R e ts
    ⟨r.value ++ rest.value, r.state :: rest.state, r.events ++ rest.events⟩

end

mutual

/-- Whether a tree can stand in for an endpoint. -/
def supports (R : Roster α) : Tree α → Endpoint → Bool
  | leaf a, e => R.supports a e
  | chain parts, e => anySupports R parts e

/-- Whether one of the trees can stand in for an endpoint. -/
def anySupports (R : Roster α) : List (Tree α) → Endpoint → Bool
  | [], _ => false
  | t :: ts, e => supports R t e || anySupports R ts e

end

mutual

/-- A tree hears that an endpoint failed. -/
def report (R : Roster α) (e : Endpoint) : Tree α → Reply (Tree α) (Except Failure Unit)
  | leaf a => (R.report e a).mapState leaf
  | chain parts => (reportFirst R e parts).mapState chain

/-- The first tree that can stand in for the endpoint hears that it failed; if there is none, the
report is dropped, and that is logged. -/
def reportFirst (R : Roster α) (e : Endpoint) :
    List (Tree α) → Reply (List (Tree α)) (Except Failure Unit)
  | [] => ⟨.ok (), [], [.unclaimed e]⟩
  | t :: ts =>
    if supports R t e then (report R e t).mapState (· :: ts)
    else (reportFirst R e ts).mapState (t :: ·)

end

mutual

/-- The sources from left to right. -/
def leaves : Tree α → List α
  | leaf a => [a]
  | chain parts => leavesOfAll parts

/-- The sources of trees one after another. -/
def leavesOfAll : List (Tree α) → List α
  | [] => []
  | t :: ts => leaves t ++ leavesOfAll ts

end

/-- The tree as a roster. -/
def roster (R : Roster α) : Roster (Tree α) := ⟨candidates R, supports R, report R⟩

end Tree

/-- Trees of the sources of this library. -/
abbrev Provider := Tree Source

namespace Provider

/-- How providers answer. -/
def roster : Roster Provider := Tree.roster Source.roster

/-- One provider, and another behind it if there is one. -/
def followedBy (primary : Provider) : Option Provider → Provider
  | none => primary
  | some secondary => .chain [primary, secondary]

end Provider

end Failover
