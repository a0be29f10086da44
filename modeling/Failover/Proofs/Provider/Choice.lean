import Failover.Provider.Source
import Failover.Proofs.Provider.Lookups
/-!
# Sources by strategy, and what becomes of them

* `Strategy.addressed` : nodes on the ports on which they are addressed;
* `Strategy.Makes` : the source that each strategy makes of such nodes.
  `Strategy.source_eq_ok_iff`, `Strategy.source_eq_error_iff`: so it does, and only a strategy that takes
  no nodes can fail;
* `Source.Becomes` : what becomes of a source that is asked and told things, while its dice and the
  answers to its lookups change;
* `Source.Apart` : all that the source may offer at a time names different places.
  `Source.Apart.candidates`: then its candidates do.  `Source.apart_iff`: of the sources that strategies
  make of nodes, no others offer such candidates.
-/

set_option autoImplicit false

namespace Failover

/-! ## Strategies -/

namespace Strategy

/-- Nodes on the ports on which they are addressed. -/
def addressed (admin : Bool) (nodes : List Endpoint) : List Endpoint :=
  if admin then nodes.map Endpoint.onAdminPort else nodes

theorem addressed_eq_nil_iff {admin : Bool} {nodes : List Endpoint} :
    addressed admin nodes = [] ↔ nodes = [] := by
  cases admin with
  | false => exact Iff.rfl
  | true => exact List.map_eq_nil_iff

/-- What a strategy makes of nodes: of none, nothing if it works with nodes at all; otherwise the nodes in
    their order or in random order, or their addresses in random order.  One that finds its own candidates
    takes none. -/
inductive Makes (resolver : Resolver) (dice : Dice) : Strategy → List Endpoint → Source → Prop where
  | unsupplied {s : Strategy} (takesNodes : s ≠ .dynamicRandomIp) : Makes resolver dice s [] .null
  | empty {nodes : List Endpoint} (supplied : nodes ≠ []) : Makes resolver dice .empty nodes .null
  | simpleFailover {nodes : List Endpoint} (supplied : nodes ≠ []) :
    Makes resolver dice .simpleFailover nodes (.fixed nodes)
  | loadBalanced {nodes : List Endpoint} (supplied : nodes ≠ []) :
    Makes resolver dice .loadBalanced nodes (.shuffled nodes dice)
  | loadBalancedIp {nodes : List Endpoint} (supplied : nodes ≠ []) :
    Makes resolver dice .loadBalancedIp nodes (.shuffledAddresses nodes resolver dice)
  | dynamicRandomIp : Makes resolver dice .dynamicRandomIp [] (.lookup resolver)

variable {s : Strategy} {admin : Bool} {resolver : Resolver} {dice : Dice} {nodes : List Endpoint}

theorem source_of_takesNodes (h : s ≠ .dynamicRandomIp) :
    s.source admin resolver dice nodes = .ok (s.sourceOfNodes resolver dice (addressed admin nodes)) := by
  have hstatic : s.isDynamic = false := by
    cases s with
    | dynamicRandomIp => exact absurd rfl h
    | _ => rfl
  rw [source, hstatic]
  rfl

theorem makes_sourceOfNodes (h : s ≠ .dynamicRandomIp) :
    Makes resolver dice s nodes (s.sourceOfNodes resolver dice nodes) := by
  unfold sourceOfNodes
  split
  · rename_i hempty
    rw [List.isEmpty_iff.mp hempty]
    exact .unsupplied h
  · rename_i hsome
    have hsupplied : nodes ≠ [] := fun hnil => hsome (List.isEmpty_iff.mpr hnil)
    cases s with
    | empty => exact .empty hsupplied
    | simpleFailover => exact .simpleFailover hsupplied
    | loadBalanced => exact .loadBalanced hsupplied
    | loadBalancedIp => exact .loadBalancedIp hsupplied
    | dynamicRandomIp => exact absurd rfl h

/-- There is one thing at most that a strategy makes of nodes. -/
theorem Makes.unique {a b : Source} (ha : Makes resolver dice s nodes a)
    (hb : Makes resolver dice s nodes b) : a = b := by
  cases ha <;> cases hb <;> first | rfl | contradiction

theorem source_dynamicRandomIp : dynamicRandomIp.source admin resolver dice nodes =
    if nodes = [] then .ok (.lookup resolver) else .error (.configuration .nodesForDynamic) := by
  have hempty : (addressed admin nodes).isEmpty = true ↔ nodes = [] := by
    rw [List.isEmpty_iff, addressed_eq_nil_iff]
  show (if (addressed admin nodes).isEmpty = true then _ else _) = _
  simp only [hempty]

/-- **The source that a strategy makes.** -/
theorem source_eq_ok_iff {source : Source} : s.source admin resolver dice nodes = .ok source ↔
    Makes resolver dice s (addressed admin nodes) source := by
  by_cases hs : s = .dynamicRandomIp
  · rw [hs, source_dynamicRandomIp]
    constructor
    · intro h
      split at h
      · rename_i hnodes
        cases h
        rw [addressed_eq_nil_iff.mpr hnodes]
        exact .dynamicRandomIp
      · cases h
    · intro h
      generalize hused : addressed admin nodes = used at h
      cases h with
      | unsupplied h => exact absurd rfl h
      | dynamicRandomIp => rw [if_pos (addressed_eq_nil_iff.mp hused)]
  · rw [source_of_takesNodes hs, Except.ok.injEq]
    constructor
    · rintro rfl
      exact makes_sourceOfNodes hs
    · exact fun h => (makes_sourceOfNodes hs).unique h

theorem source_ok_iff (s : Strategy) (admin : Bool) (resolver : Resolver) (dice : Dice)
    (nodes : List Endpoint) :
    (∃ source, s.source admin resolver dice nodes = .ok source) ↔ nodes = [] ∨ s ≠ .dynamicRandomIp := by
  by_cases hs : s = .dynamicRandomIp
  · rw [hs, source_dynamicRandomIp]
    by_cases hnodes : nodes = [] <;> simp [hnodes]
  · simp [source_of_takesNodes hs, hs]

end Strategy

/-! ## Sources over time -/

namespace Source

/-- The same source with other dice. -/
def shaken (dice : Dice) : Source → Source
  | shuffled nodes _ => shuffled nodes dice
  | shuffledAddresses nodes r _ => shuffledAddresses nodes r dice
  | s => s

/-- What becomes of a source: it is asked for candidates, hears of a failure, finds that hosts are looked up
    to something else, and draws other numbers. -/
inductive Becomes (s : Source) : Source → Prop where
  | start : Becomes s s
  | asked {t : Source} (h : Becomes s t) (e : Endpoint) : Becomes s (candidates e t).state
  | told {t : Source} (h : Becomes s t) (e : Endpoint) : Becomes s (report e t).state
  | answered {t : Source} (h : Becomes s t) (r : Resolver) : Becomes s (t.answering r)
  | shaken {t : Source} (h : Becomes s t) (dice : Dice) : Becomes s (t.shaken dice)

/-- All that the source may offer at a time names different places.  Equal addresses are found once, whatever
    the nodes are. -/
inductive Apart : Source → Prop where
  | null : Apart .null
  | fixed {nodes : List Endpoint} (h : nodes.Pairwise fun a b => a.same b = false) :
    Apart (.fixed nodes)
  | shuffled {nodes : List Endpoint} (h : nodes.Pairwise fun a b => a.same b = false) (dice : Dice) :
    Apart (.shuffled nodes dice)
  | shuffledAddresses (nodes : List Endpoint) (r : Resolver) (dice : Dice) :
    Apart (.shuffledAddresses nodes r dice)

theorem apart_perm {as bs : List Endpoint} (h : as.Perm bs) :
    (as.Pairwise fun a b => a.same b = false) ↔ bs.Pairwise fun a b => a.same b = false := by
  refine h.pairwise_iff fun {a b} hab => ?_
  rw [Endpoint.same, BEq.comm]
  exact hab

variable {s t : Source}

theorem Apart.candidates (h : s.Apart) (e : Endpoint) :
    (candidates e s).value.Pairwise fun a b => a.same b = false := by
  cases h with
  | null => exact List.Pairwise.nil
  | fixed h => exact h
  | shuffled h dice => exact (apart_perm (permute_perm dice _)).mpr h
  | shuffledAddresses nodes r dice =>
    exact (apart_perm (candidates_shuffledAddresses nodes r dice e)).mpr
      (r.resolveAll_merged nodes).apart

/-- It stays so, whatever becomes of the source. -/
theorem Apart.becomes (h : s.Apart) (hbecomes : s.Becomes t) : t.Apart := by
  induction hbecomes with
  | start => exact h
  | asked _ e ih | told _ e ih | answered _ r ih | shaken _ dice ih =>
    cases ih with
    | null => exact .null
    | fixed h => exact .fixed h
    | shuffled h => exact .shuffled h _
    | shuffledAddresses => exact .shuffledAddresses _ _ _

/-- **When the candidates of a source that a strategy makes of nodes always name different places**:
    just when the nodes do, unless it offers none of them or their addresses. -/
theorem apart_iff {strategy : Strategy} {resolver : Resolver} {dice : Dice} {nodes : List Endpoint}
    (hmade : Strategy.Makes resolver dice strategy nodes s) (hnodes : strategy ≠ .dynamicRandomIp) :
    (∀ t, s.Becomes t → ∀ e, (Source.candidates e t).value.Pairwise fun a b => a.same b = false) ↔
      (strategy ≠ .empty → strategy ≠ .loadBalancedIp → nodes.Pairwise fun a b => a.same b = false) := by
  constructor
  · intro hoffers hstrategy hnames
    -- What the source offers at the beginning is enough.
    have hstart := hoffers s .start default
    cases hmade with
    | unsupplied => exact List.Pairwise.nil
    | empty => exact absurd rfl hstrategy
    | simpleFailover => exact hstart
    | loadBalanced => exact (apart_perm (permute_perm _ nodes)).mp hstart
    | loadBalancedIp => exact absurd rfl hnames
    | dynamicRandomIp => exact absurd rfl hnodes
  · intro hapart t hbecomes e
    refine Apart.candidates (Apart.becomes ?_ hbecomes) e
    cases hmade with
    | unsupplied | empty => exact .null
    | simpleFailover => exact .fixed (hapart (by decide) (by decide))
    | loadBalanced => exact .shuffled (hapart (by decide) (by decide)) _
    | loadBalancedIp => exact .shuffledAddresses _ _ _
    | dynamicRandomIp => exact absurd rfl hnodes

end Source

end Failover
