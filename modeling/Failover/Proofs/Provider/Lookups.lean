import Failover.Proofs.Provider.Leaves
import Failover.Proofs.Resolver
import Failover.Proofs.Shuffle
/-!
# Sources that look hosts up

Lookups may fail and find something else each time.  A source that has anything to look up offers
candidates all the same.

* `Source.LooksUp` : the source looks hosts up, and has some to look up.  `Source.candidates_ne_nil`:
  then it offers something;
* `Tree.map`, `Provider.answering` : the same sources with other answers to their lookups;
* `Provider.LooksUp` : one of the sources looks hosts up.  `Provider.roster_keeps_looksUp`: so it stays
  after any questions.
-/

set_option autoImplicit false

namespace Failover

/-! ## Sources -/

namespace Source

/-- The source looks hosts up, and has some to look up. -/
def LooksUp : Source → Prop
  | shuffledAddresses nodes _ _ => nodes ≠ []
  | lookup _ => True
  | _ => False

/-- The same source, whose lookups are answered by `r`. -/
def answering (r : Resolver) : Source → Source
  | shuffledAddresses nodes _ dice => shuffledAddresses nodes r dice
  | lookup _ => lookup r
  | s => s

theorem candidates_shuffledAddresses (nodes : List Endpoint) (r : Resolver) (d : Dice)
    (e : Endpoint) : (candidates e (shuffledAddresses nodes r d)).value.Perm (r.resolveAll nodes).1 :=
  permute_perm d _

/-- Whatever its lookups answer, it offers something. -/
theorem candidates_ne_nil {s : Source} (h : s.LooksUp) (e : Endpoint) :
    (candidates e s).value ≠ [] := by
  cases s with
  | shuffledAddresses nodes r d =>
    intro hnil
    have hperm := candidates_shuffledAddresses nodes r d e
    rw [hnil] at hperm
    exact r.resolveAll_ne_nil h hperm.symm.eq_nil
  | lookup r => exact r.resolve_ne_nil e
  | null | fixed | shuffled | recording | sequence => exact h.elim

theorem looksUp_candidates (e : Endpoint) {s : Source} (h : s.LooksUp) :
    (candidates e s).state.LooksUp := by
  cases s with
  | shuffledAddresses | lookup => exact h
  | null | fixed | shuffled | recording | sequence => exact h.elim

theorem looksUp_report (e : Endpoint) {s : Source} (h : s.LooksUp) :
    (report e s).state.LooksUp := by
  cases s with
  | shuffledAddresses | lookup => exact h
  | null | fixed | shuffled | recording | sequence => exact h.elim

theorem looksUp_answering (r : Resolver) {s : Source} (h : s.LooksUp) :
    (s.answering r).LooksUp := by
  cases s with
  | shuffledAddresses | lookup => exact h
  | null | fixed | shuffled | recording | sequence => exact h.elim

end Source

/-! ## Trees -/

namespace Tree

variable {α β : Type}

mutual

/-- The tree with other sources in the same places. -/
def map (f : α → β) : Tree α → Tree β
  | leaf a => leaf (f a)
  | chain parts => chain (mapAll f parts)

/-- The trees with other sources in the same places. -/
def mapAll (f : α → β) : List (Tree α) → List (Tree β)
  | [] => []
  | t :: ts => map f t :: mapAll f ts

end

mutual

theorem leaves_map (f : α → β) : ∀ t : Tree α, (t.map f).leaves = t.leaves.map f
  | leaf _ => rfl
  | chain parts => leavesOfAll_mapAll f parts

theorem leavesOfAll_mapAll (f : α → β) : ∀ ts : List (Tree α),
    leavesOfAll (mapAll f ts) = (leavesOfAll ts).map f
  | [] => rfl
  | t :: ts => by
    rw [mapAll, leavesOfAll, leavesOfAll, List.map_append, leaves_map f t, leavesOfAll_mapAll f ts]

end

end Tree

namespace Provider

/-- The same provider, with these answers to the lookups of its sources. -/
def answering (answers : Source → Resolver) (t : Provider) : Provider :=
  t.map fun s => s.answering (answers s)

/-- One of the sources looks hosts up, and has some to look up. -/
def LooksUp (t : Provider) : Prop := ∃ s ∈ t.leaves, s.LooksUp

theorem LooksUp.answering {t : Provider} (h : t.LooksUp) (answers : Source → Resolver) :
    (t.answering answers).LooksUp := by
  obtain ⟨s, hs, hlooks⟩ := h
  refine ⟨s.answering (answers s), ?_, Source.looksUp_answering _ hlooks⟩
  rw [Provider.answering, Tree.leaves_map]
  exact List.mem_map.mpr ⟨s, hs, rfl⟩

/-- Neither questions nor reports take away the source. -/
theorem roster_keeps_looksUp : roster.Keeps LooksUp := by
  apply Tree.roster_keeps (I := fun as : List Source => ∃ s ∈ as, s.LooksUp)
  · rintro e as ⟨s, hs, hlooks⟩
    exact ⟨_, List.mem_map.mpr ⟨s, hs, rfl⟩, Source.looksUp_candidates e hlooks⟩
  · rintro e s ⟨a, ha, hlooks⟩
    rw [List.mem_singleton.mp ha] at hlooks
    exact ⟨_, List.mem_singleton_self _, Source.looksUp_report e hlooks⟩
  · intro e as h
    exact Tree.exists_mem_state_reportLeaves (fun s => Source.looksUp_report e) h

theorem LooksUp.candidates_ne_nil {t : Provider} (h : t.LooksUp) (e : Endpoint) :
    (roster.candidates e t).value ≠ [] := by
  obtain ⟨s, hs, hlooks⟩ := h
  obtain ⟨hvalue, -, -⟩ := Tree.candidates_leaves Source.roster e t
  change (Tree.candidates Source.roster e t).value ≠ []
  rw [hvalue]
  intro hnil
  exact Source.candidates_ne_nil hlooks e (List.flatMap_eq_nil_iff.mp hnil s hs)

end Provider

end Failover
