import Failover.Provider.Tree
/-!
# Trees of sources by their leaves

How deep the chains of a tree are nested does not show: what the tree answers depends on its sources
from left to right alone.

* `Tree.candidates_leaves` : every source is asked once, and the answers are put one behind the other;
* `Tree.supports_leaves` : the tree stands in for what one of its sources stands in for;
* `Tree.reportLeaves` : a report of failure to sources from left to right.  `Tree.report_leaves`,
  `Tree.reportFirst_leaves`: this is where the reports to a tree go;
* `Tree.mem_events_candidates`, `Tree.mem_events_report` : what a tree logs is logged by its sources;
* `Roster.Keeps` : asking and reporting do not lead out of some states.  `Tree.roster_keeps`: it is
  enough that they keep something of the sources.
-/

set_option autoImplicit false

namespace Failover

namespace Reply

variable {σ τ υ α : Type}

@[simp] theorem state_mapState (f : σ → τ) (r : Reply σ α) : (r.mapState f).state = f r.state := rfl

theorem mapState_mapState (f : σ → τ) (g : τ → υ) (r : Reply σ α) :
    (r.mapState f).mapState g = r.mapState fun s => g (f s) := rfl

end Reply

namespace Tree

variable {α : Type} (R : Roster α) (e : Endpoint)

/-! ## Candidates -/

mutual

/-- A tree asks each of its sources once, from left to right. -/
theorem candidates_leaves : ∀ t : Tree α,
    (candidates R e t).value = t.leaves.flatMap (fun a => (R.candidates e a).value) ∧
      (candidates R e t).state.leaves = t.leaves.map (fun a => (R.candidates e a).state) ∧
      (candidates R e t).events = t.leaves.flatMap (fun a => (R.candidates e a).events)
  | leaf a => by simp [candidates, leaves]
  | chain parts => by
    have h := candidatesOfAll_leaves parts
    simpa only [candidates, leaves, Reply.value_mapState, Reply.state_mapState,
      Reply.events_mapState] using h

theorem candidatesOfAll_leaves : ∀ ts : List (Tree α),
    (candidatesOfAll R e ts).value = (leavesOfAll ts).flatMap (fun a => (R.candidates e a).value) ∧
      leavesOfAll (candidatesOfAll R e ts).state =
        (leavesOfAll ts).map (fun a => (R.candidates e a).state) ∧
      (candidatesOfAll R e ts).events =
        (leavesOfAll ts).flatMap (fun a => (R.candidates e a).events)
  | [] => ⟨rfl, rfl, rfl⟩
  | t :: ts => by
    obtain ⟨hvalue, hstate, hevents⟩ := candidates_leaves t
    obtain ⟨hvalues, hstates, hrest⟩ := candidatesOfAll_leaves ts
    refine ⟨?_, ?_, ?_⟩
    · simp only [candidatesOfAll, leavesOfAll, hvalue, hvalues, List.flatMap_append]
    · simp only [candidatesOfAll, leavesOfAll, hstate, hstates, List.map_append]
    · simp only [candidatesOfAll, leavesOfAll, hevents, hrest, List.flatMap_append]

end

/-! ## Support -/

mutual

/-- A tree stands in for an endpoint if one of its sources does. -/
theorem supports_leaves : ∀ t : Tree α, supports R t e = t.leaves.any (R.supports · e)
  | leaf a => by simp [supports, leaves]
  | chain parts => by rw [supports, leaves, anySupports_leaves parts]

theorem anySupports_leaves : ∀ ts : List (Tree α),
    anySupports R ts e = (leavesOfAll ts).any (R.supports · e)
  | [] => rfl
  | t :: ts => by
    rw [anySupports, leavesOfAll, List.any_append, supports_leaves t, anySupports_leaves ts]

end

/-! ## Reports of failure -/

/-- The first of the sources that can stand in for the endpoint hears that it failed; if there is none,
    the report is dropped. -/
def reportLeaves : List α → Reply (List α) (Except Failure Unit)
  | [] => ⟨.ok (), [], [.unclaimed e]⟩
  | a :: as =>
    if R.supports a e then (R.report e a).mapState (· :: as)
    else (reportLeaves as).mapState (a :: ·)

/-- Whatever is behind a source that can stand in for the endpoint does not matter. -/
theorem reportLeaves_append_of_any : ∀ (as bs : List α), as.any (R.supports · e) = true →
    reportLeaves R e (as ++ bs) = (reportLeaves R e as).mapState (· ++ bs)
  | [], _, h => by cases h
  | a :: as, bs, h => by
    cases ha : R.supports a e with
    | true =>
      simp only [List.cons_append, reportLeaves, ha, if_true, Reply.mapState_mapState]
    | false =>
      have has : as.any (R.supports · e) = true := by simpa [ha] using h
      simp only [List.cons_append, reportLeaves, ha, Bool.false_eq_true, if_false,
        reportLeaves_append_of_any as bs has, Reply.mapState_mapState]

/-- Sources that cannot stand in for the endpoint are passed over. -/
theorem reportLeaves_append_of_not_any : ∀ (as bs : List α), as.any (R.supports · e) = false →
    reportLeaves R e (as ++ bs) = (reportLeaves R e bs).mapState (as ++ ·)
  | [], _, _ => rfl
  | a :: as, bs, h => by
    obtain ⟨ha, has⟩ : R.supports a e = false ∧ as.any (R.supports · e) = false := by
      simpa using h
    simp only [List.cons_append, reportLeaves, ha, Bool.false_eq_true, if_false,
      reportLeaves_append_of_not_any as bs has, Reply.mapState_mapState]

mutual

/-- A tree that can stand in for an endpoint hands a report on to the first of its sources that
    can. -/
theorem report_leaves : ∀ t : Tree α, supports R t e = true →
    (report R e t).mapState leaves = reportLeaves R e t.leaves
  | leaf a, h => by
    have ha : R.supports a e = true := h
    simp only [report, leaves, reportLeaves, ha, if_true, Reply.mapState_mapState]
  | chain parts, _ => by
    have h := reportFirst_leaves parts
    simpa only [report, leaves, Reply.mapState_mapState] using h

theorem reportFirst_leaves : ∀ ts : List (Tree α),
    (reportFirst R e ts).mapState leavesOfAll = reportLeaves R e (leavesOfAll ts)
  | [] => rfl
  | t :: ts => by
    cases ht : supports R t e with
    | true =>
      have hany : t.leaves.any (R.supports · e) = true := by rw [← supports_leaves, ht]
      rw [reportFirst, if_pos ht, leavesOfAll, reportLeaves_append_of_any R e _ _ hany,
        ← report_leaves t ht]
      rfl
    | false =>
      have hany : t.leaves.any (R.supports · e) = false := by rw [← supports_leaves, ht]
      rw [reportFirst, if_neg (by rw [ht]; exact Bool.false_ne_true), leavesOfAll,
        reportLeaves_append_of_not_any R e _ _ hany, ← reportFirst_leaves ts]
      rfl

end

variable {R e}

/-- If every source takes reports on what it can stand in for, no report is refused. -/
theorem reportLeaves_ok : ∀ {as : List α},
    (∀ a ∈ as, R.supports a e = true → (R.report e a).value = .ok ()) →
      (reportLeaves R e as).value = .ok ()
  | [], _ => rfl
  | a :: as, h => by
    cases ha : R.supports a e with
    | true => simpa [reportLeaves, ha] using h a List.mem_cons_self ha
    | false =>
      have ih := reportLeaves_ok fun b hb => h b (List.mem_cons_of_mem a hb)
      simpa [reportLeaves, ha] using ih

/-- A report changes no source but the one that hears it. -/
theorem mem_state_reportLeaves : ∀ {as : List α} {b : α}, b ∈ (reportLeaves R e as).state →
    b ∈ as ∨ ∃ a ∈ as, b = (R.report e a).state
  | [], _, h => by cases h
  | a :: as, b, h => by
    cases ha : R.supports a e with
    | true =>
      simp only [reportLeaves, ha, if_true, Reply.state_mapState] at h
      rcases List.mem_cons.mp h with rfl | h
      · exact Or.inr ⟨a, List.mem_cons_self, rfl⟩
      · exact Or.inl (List.mem_cons_of_mem a h)
    | false =>
      simp only [reportLeaves, ha, Bool.false_eq_true, if_false, Reply.state_mapState] at h
      rcases List.mem_cons.mp h with rfl | h
      · exact Or.inl List.mem_cons_self
      · obtain hb | ⟨c, hc, hb⟩ := mem_state_reportLeaves h
        · exact Or.inl (List.mem_cons_of_mem a hb)
        · exact Or.inr ⟨c, List.mem_cons_of_mem a hc, hb⟩

/-- What every report keeps of a source is kept of one of the sources. -/
theorem exists_mem_state_reportLeaves {P : α → Prop} (hP : ∀ a, P a → P (R.report e a).state) :
    ∀ {as : List α}, (∃ a ∈ as, P a) → ∃ a ∈ (reportLeaves R e as).state, P a
  | [], h => by
    obtain ⟨a, ha, -⟩ := h
    cases ha
  | a :: as, h => by
    simp only [List.mem_cons, exists_eq_or_imp] at h
    unfold reportLeaves
    split
    · simp only [Reply.state_mapState, List.mem_cons, exists_eq_or_imp]
      exact h.imp_left (hP a)
    · simp only [Reply.state_mapState, List.mem_cons, exists_eq_or_imp]
      exact h.imp_right (exists_mem_state_reportLeaves hP)

/-- What is logged at a report is logged by one of the sources, or says that it is for none of them. -/
theorem mem_events_reportLeaves : ∀ {as : List α} {ev : Event}, ev ∈ (reportLeaves R e as).events →
    (∃ a ∈ as, ev ∈ (R.report e a).events) ∨ ev = .unclaimed e
  | [], _, h => Or.inr (List.mem_singleton.mp h)
  | a :: as, ev, h => by
    cases ha : R.supports a e with
    | true =>
      simp only [reportLeaves, ha, if_true, Reply.events_mapState] at h
      exact Or.inl ⟨a, List.mem_cons_self, h⟩
    | false =>
      simp only [reportLeaves, ha, Bool.false_eq_true, if_false, Reply.events_mapState] at h
      refine (mem_events_reportLeaves h).imp_left ?_
      rintro ⟨b, hb, hev⟩
      exact ⟨b, List.mem_cons_of_mem a hb, hev⟩

/-- So is what a tree logs. -/
theorem mem_events_candidates {t : Tree α} {ev : Event} (h : ev ∈ (candidates R e t).events) :
    ∃ a ∈ t.leaves, ev ∈ (R.candidates e a).events := by
  obtain ⟨-, -, hevents⟩ := candidates_leaves R e t
  rw [hevents] at h
  exact List.mem_flatMap.mp h

theorem mem_events_report {t : Tree α} {ev : Event} (h : ev ∈ (report R e t).events) :
    (∃ a ∈ t.leaves, ev ∈ (R.report e a).events) ∨ ev = .unclaimed e := by
  cases t with
  | leaf a => exact Or.inl ⟨a, List.mem_singleton_self a, h⟩
  | chain parts =>
    have hevents := congrArg Reply.events (reportFirst_leaves R e parts)
    rw [Reply.events_mapState] at hevents
    change ev ∈ (reportFirst R e parts).events at h
    rw [hevents] at h
    exact mem_events_reportLeaves h

end Tree

/-! ## What stays true -/

/-- Neither asking for candidates nor reporting a failure leads out of the states `I`. -/
structure Roster.Keeps {σ : Type} (R : Roster σ) (I : σ → Prop) : Prop where
  candidates : ∀ {st : σ} (e : Endpoint), I st → I (R.candidates e st).state
  report : ∀ {st : σ} (e : Endpoint), I st → I (R.report e st).state

/-- A tree keeps what its sources keep from left to right, and a single one by itself. -/
theorem Tree.roster_keeps {α : Type} {R : Roster α} {I : List α → Prop}
    (hcandidates : ∀ e as, I as → I (as.map fun a => (R.candidates e a).state))
    (hsingle : ∀ e a, I [a] → I [(R.report e a).state])
    (hreport : ∀ e as, I as → I (reportLeaves R e as).state) :
    (roster R).Keeps fun t => I t.leaves where
  candidates := by
    intro t e h
    obtain ⟨-, hleaves, -⟩ := candidates_leaves R e t
    change I (candidates R e t).state.leaves
    rw [hleaves]
    exact hcandidates e t.leaves h
  report := by
    intro t e h
    cases t with
    | leaf a => exact hsingle e a h
    | chain parts =>
      have hleaves : leavesOfAll (reportFirst R e parts).state =
          (reportLeaves R e (leavesOfAll parts)).state :=
        congrArg Reply.state (reportFirst_leaves R e parts)
      change I (leavesOfAll (reportFirst R e parts).state)
      rw [hleaves]
      exact hreport e (leavesOfAll parts) h

end Failover
