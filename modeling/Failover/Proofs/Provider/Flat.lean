import Failover.Proofs.Provider.Leaves
/-!
# Chains of chains

A tree of sources answers as the one chain of its sources from left to right does, however deep its
chains are nested.

* `Question`, `Roster.answer`, `Roster.answers` : what a roster can be asked, and what it answers to
  questions one after another;
* `Roster.noted` : a roster that keeps what it was asked, and answers as before;
* `Tree.flat` : the chain of the sources of a tree;
* `Tree.reportLeaves_cases` : the one source that hears a report, or none;
* `Tree.answer_chain` : chains of the same sources give the same answer, and stay chains of the same
  sources.  `Tree.answers_chain`: so they cannot be told apart;
* `Tree.flat_alike` : a tree and its flat chain side by side.
-/

set_option autoImplicit false

namespace Failover

/-! ## Questions -/

/-- One thing that a roster can be asked. -/
inductive Question where
  | candidates (e : Endpoint)
  | supports (e : Endpoint)
  | report (e : Endpoint)
deriving DecidableEq, Repr

/-- What it answers. -/
inductive Reaction where
  | candidates (es : List Endpoint)
  | supports (b : Bool)
  | report (taken : Except Failure Unit)

namespace Reply

variable {σ α β : Type}

/-- The reply with another answer. -/
def mapValue (f : α → β) (r : Reply σ α) : Reply σ β := ⟨f r.value, r.state, r.events⟩

end Reply

namespace Roster

variable {σ : Type}

/-- The answer to one question. -/
def answer (R : Roster σ) (st : σ) : Question → Reply σ Reaction
  | .candidates e => (R.candidates e st).mapValue .candidates
  | .supports e => .of (.supports (R.supports st e)) st
  | .report e => (R.report e st).mapValue .report

/-- The answers to questions one after another, each with what was logged. -/
def answers (R : Roster σ) : σ → List Question → List (Reaction × List Event)
  | _, [] => []
  | st, q :: qs =>
    let r := R.answer st q
    (r.value, r.events) :: answers R r.state qs

/-- The roster with everything that it was asked for or told. -/
def noted (R : Roster σ) : Roster (σ × List Question) where
  candidates e st := (R.candidates e st.1).mapState (·, st.2 ++ [.candidates e])
  supports st e := R.supports st.1 e
  report e st := (R.report e st.1).mapState (·, st.2 ++ [.report e])

end Roster

namespace Tree

variable {α : Type}

/-! ## The chain of the sources -/

/-- The sources of a tree in one chain. -/
def flat (t : Tree α) : Tree α := chain (t.leaves.map leaf)

theorem leavesOfAll_map_leaf : ∀ as : List α, leavesOfAll (as.map leaf) = as
  | [] => rfl
  | a :: as => by
    rw [List.map_cons, leavesOfAll, leavesOfAll_map_leaf as]
    rfl

@[simp] theorem leaves_flat (t : Tree α) : t.flat.leaves = t.leaves :=
  leavesOfAll_map_leaf t.leaves

section

variable (R : Roster α) (e : Endpoint)

/-- What a tree answers when it is asked for candidates, read off its leaves. -/
theorem candidates_mapState_leaves (t : Tree α) :
    (candidates R e t).mapState leaves =
      ⟨t.leaves.flatMap (fun a => (R.candidates e a).value),
        t.leaves.map (fun a => (R.candidates e a).state),
        t.leaves.flatMap (fun a => (R.candidates e a).events)⟩ := by
  obtain ⟨hvalue, hstate, hevents⟩ := candidates_leaves R e t
  rw [Reply.mapState, hvalue, hstate, hevents]

/-- What a chain answers to a report, read off its leaves. -/
theorem report_chain_mapState_leaves (parts : List (Tree α)) :
    (report R e (chain parts)).mapState leaves = reportLeaves R e (chain parts).leaves :=
  reportFirst_leaves R e parts

/-! ## Who hears a report -/

/-- A report goes to the first source that can stand in for the endpoint, and all others stay as they
    are; if there is none, that is logged and nothing else happens. -/
theorem reportLeaves_cases : ∀ as : List α,
    (∃ before a after, as = before ++ a :: after ∧ (∀ b ∈ before, R.supports b e = false) ∧
      R.supports a e = true ∧
      reportLeaves R e as = (R.report e a).mapState fun heard => before ++ heard :: after) ∨
    ((∀ a ∈ as, R.supports a e = false) ∧ reportLeaves R e as = ⟨.ok (), as, [.unclaimed e]⟩)
  | [] => Or.inr ⟨fun _ ha => absurd ha List.not_mem_nil, rfl⟩
  | a :: as => by
    cases ha : R.supports a e with
    | true =>
      refine Or.inl ⟨[], a, as, rfl, fun _ hb => absurd hb List.not_mem_nil, ha, ?_⟩
      rw [reportLeaves, if_pos ha]
      rfl
    | false =>
      have hpassed : reportLeaves R e (a :: as) = (reportLeaves R e as).mapState (a :: ·) := by
        rw [reportLeaves, if_neg (by rw [ha]; exact Bool.false_ne_true)]
      obtain ⟨before, b, after, rfl, hbefore, hb, hheard⟩ | ⟨hnone, hdropped⟩ :=
        reportLeaves_cases as
      · refine Or.inl ⟨a :: before, b, after, rfl, ?_, hb, ?_⟩
        · exact List.forall_mem_cons.mpr ⟨ha, hbefore⟩
        · rw [hpassed, hheard, Reply.mapState_mapState]
          rfl
      · refine Or.inr ⟨List.forall_mem_cons.mpr ⟨ha, hnone⟩, ?_⟩
        rw [hpassed, hdropped]
        rfl

end

/-! ## Chains of the same sources -/

variable (R : Roster α)

/-- Chains of the same sources give the same answer, and afterwards they are chains of the same sources
    again. -/
theorem answer_chain (q : Question) {ts us : List (Tree α)} (h : leavesOfAll ts = leavesOfAll us) :
    ((roster R).answer (chain ts) q).mapState leaves =
        ((roster R).answer (chain us) q).mapState leaves ∧
      ∃ ts' us', ((roster R).answer (chain ts) q).state = chain ts' ∧
        ((roster R).answer (chain us) q).state = chain us' := by
  have hleaves : (chain ts).leaves = (chain us).leaves := h
  cases q with
  | candidates e =>
    refine ⟨?_, _, _, rfl, rfl⟩
    have hasked : (candidates R e (chain ts)).mapState leaves =
        (candidates R e (chain us)).mapState leaves := by
      rw [candidates_mapState_leaves, candidates_mapState_leaves, hleaves]
    exact congrArg (Reply.mapValue Reaction.candidates) hasked
  | supports e =>
    refine ⟨?_, _, _, rfl, rfl⟩
    have hsupports : supports R (chain ts) e = supports R (chain us) e := by
      rw [supports_leaves, supports_leaves, hleaves]
    show Reply.of (Reaction.supports (supports R (chain ts) e)) (chain ts).leaves = _
    rw [hsupports, hleaves]
    rfl
  | report e =>
    refine ⟨?_, _, _, rfl, rfl⟩
    have htold : (report R e (chain ts)).mapState leaves =
        (report R e (chain us)).mapState leaves := by
      rw [report_chain_mapState_leaves, report_chain_mapState_leaves, hleaves]
    exact congrArg (Reply.mapValue Reaction.report) htold

/-- They do so for any number of questions. -/
theorem answers_chain : ∀ (qs : List Question) {ts us : List (Tree α)},
    leavesOfAll ts = leavesOfAll us →
      (roster R).answers (chain ts) qs = (roster R).answers (chain us) qs
  | [], _, _, _ => rfl
  | q :: qs, ts, us, h => by
    -- Both are still chains, of sources that have answered the same question.
    obtain ⟨hsame, ts', us', hts, hus⟩ := answer_chain R q h
    have hvalue := congrArg Reply.value hsame
    have hevents := congrArg Reply.events hsame
    have hstate := congrArg Reply.state hsame
    rw [Reply.value_mapState, Reply.value_mapState] at hvalue
    rw [Reply.events_mapState, Reply.events_mapState] at hevents
    rw [Reply.state_mapState, Reply.state_mapState, hts, hus] at hstate
    rw [Roster.answers, Roster.answers, hvalue, hevents, hts, hus, answers_chain qs hstate]

/-- **A tree of sources answers as the chain of its leaves does.**  The sources may be any; each keeps
    what it is asked for and told.

    The candidates of a tree are those of its leaves from left to right, each of which is asked once.
    The tree stands in for what one of its leaves stands in for.  A report to a chain is told to the
    first leaf that stands in for the endpoint, whose answer is the answer, and to no other leaf; if
    there is no such leaf, it is taken without being told to any.  The flat chain of the leaves does
    the same in each case, and over any number of questions a chain and its flat chain give the same
    answers. -/
theorem flat_alike (R : Roster α) (e : Endpoint) (t : Tree (α × List Question))
    (parts : List (Tree (α × List Question))) :
    ((candidates R.noted e t).mapState leaves =
        ⟨t.leaves.flatMap fun a => (R.candidates e a.1).value,
          t.leaves.map fun a => ((R.candidates e a.1).state, a.2 ++ [.candidates e]),
          t.leaves.flatMap fun a => (R.candidates e a.1).events⟩ ∧
      (candidates R.noted e t.flat).mapState leaves =
        (candidates R.noted e t).mapState leaves) ∧
    (supports R.noted t e = t.leaves.any (fun a => R.supports a.1 e) ∧
      supports R.noted t.flat e = supports R.noted t e) ∧
    (((∃ before a after, (chain parts).leaves = before ++ a :: after ∧
          (∀ b ∈ before, R.supports b.1 e = false) ∧ R.supports a.1 e = true ∧
          (report R.noted e (chain parts)).mapState leaves =
            (R.report e a.1).mapState fun st => before ++ (st, a.2 ++ [.report e]) :: after) ∨
        (∀ a ∈ (chain parts).leaves, R.supports a.1 e = false) ∧
          (report R.noted e (chain parts)).mapState leaves =
            ⟨.ok (), (chain parts).leaves, [.unclaimed e]⟩) ∧
      (report R.noted e (chain parts).flat).mapState leaves =
        (report R.noted e (chain parts)).mapState leaves) ∧
    ∀ qs, (roster R.noted).answers (chain parts).flat qs =
      (roster R.noted).answers (chain parts) qs := by
  refine ⟨⟨?_, ?_⟩, ⟨?_, ?_⟩, ⟨?_, ?_⟩, ?_⟩
  · exact candidates_mapState_leaves R.noted e t
  · rw [candidates_mapState_leaves, candidates_mapState_leaves, leaves_flat]
  · exact supports_leaves R.noted e t
  · rw [supports_leaves, supports_leaves, leaves_flat]
  · rw [report_chain_mapState_leaves]
    exact reportLeaves_cases R.noted e (chain parts).leaves
  · rw [flat, report_chain_mapState_leaves, report_chain_mapState_leaves]
    exact congrArg (reportLeaves R.noted e) (leaves_flat (chain parts))
  · exact fun qs => answers_chain R.noted qs (leaves_flat (chain parts))

end Tree

end Failover
