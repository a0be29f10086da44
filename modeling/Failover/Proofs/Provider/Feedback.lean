import Failover.Proofs.Provider.Leaves
/-!
# Providers that take back what they give out

A host that was offered as a candidate may be reported as failed much later, when other hosts have been
asked for and reported in between.

* `Roster.Accepts` : a report on this endpoint would not be refused;
* `Roster.TakesBack` : what a roster offers, it accepts from then on.  One field for each question that
  it is asked, over the states that it can be in;
* `Source.Unscripted`, `Provider.Unscripted` : the sources of this library, without the one for
  rehearsals that refuses at will.  `Provider.roster_takesBack`: trees of them take back what they give
  out, although some of them refuse what they never offered.
-/

set_option autoImplicit false

namespace Failover

variable {σ : Type}

/-- The event tells that a report of failure was refused. -/
def Event.TellsRefusal (ev : Event) : Prop := ev.message = "Failure feedback rejected"

/-- No other kind of event is worded like this. -/
theorem Event.tellsRefusal_iff {ev : Event} :
    ev.TellsRefusal ↔ ∃ shortName e f, ev = .feedbackRejected shortName e f := by
  cases ev <;> simp [TellsRefusal, message]

namespace Roster

/-- A report on this endpoint would be accepted. -/
def Accepts (R : Roster σ) (st : σ) (e : Endpoint) : Prop := (R.report e st).value = .ok ()

/-- In the states `I`, which it does not leave, the roster accepts reports on whatever it has offered,
    no matter what it is asked in between, and logs no refusal by itself. -/
structure TakesBack (R : Roster σ) (I : σ → Prop) : Prop where
  stays_candidates : ∀ {st : σ} (e : Endpoint), I st → I (R.candidates e st).state
  stays_report : ∀ {st : σ} (e : Endpoint), I st → I (R.report e st).state
  offered : ∀ {st : σ} {e c : Endpoint}, I st → c ∈ (R.candidates e st).value →
    R.Accepts (R.candidates e st).state c
  candidates : ∀ {st : σ} (e : Endpoint) {c : Endpoint}, I st → R.Accepts st c →
    R.Accepts (R.candidates e st).state c
  report : ∀ {st : σ} (e : Endpoint) {c : Endpoint}, I st → R.Accepts st c →
    R.Accepts (R.report e st).state c
  quiet_candidates : ∀ {st : σ} (e : Endpoint), I st →
    ∀ ev ∈ (R.candidates e st).events, ¬ ev.TellsRefusal
  quiet_report : ∀ {st : σ} (e : Endpoint), I st →
    ∀ ev ∈ (R.report e st).events, ¬ ev.TellsRefusal

end Roster

/-! ## Single sources -/

namespace Source

/-- The source is not the one whose answers are scripted. -/
def Unscripted : Source → Prop
  | sequence _ => False
  | _ => True

/-- A source hears of the failure of whatever it can stand in for. -/
theorem report_of_supports {s : Source} {e : Endpoint} (hs : s.Unscripted)
    (h : s.supports e = true) : (s.report e).value = .ok () := by
  cases s with
  | null => cases h
  | fixed | shuffled | shuffledAddresses | lookup => rfl
  | recording r => simp only [report, h, if_true]; rfl
  | sequence q => exact hs.elim

/-- What a source of this library accepts does not depend on what it was asked before. -/
theorem report_value_candidates {s : Source} (hs : s.Unscripted) (e c : Endpoint) :
    (report c (candidates e s).state).value = (report c s).value := by
  cases s with
  | null | fixed | shuffled | shuffledAddresses | lookup | recording => rfl
  | sequence q => exact hs.elim

theorem report_value_recording (r : Recording) (e : Endpoint) :
    (report e (recording r)).value =
      if (recording r).supports e then .ok () else .error (.unmanagedEndpoint e) := by
  simp only [report]
  split <;> rfl

/-- A report to a source with a record changes at most the record. -/
theorem report_state_recording (r : Recording) (e : Endpoint) :
    ∃ failures, (report e (recording r)).state = recording { r with failures := failures } := by
  simp only [report]
  split
  · exact ⟨_, rfl⟩
  · exact ⟨r.failures, rfl⟩

/-- What a source of this library accepts does not depend on what it heard before. -/
theorem report_value_report {s : Source} (hs : s.Unscripted) (e c : Endpoint) :
    (report c (report e s).state).value = (report c s).value := by
  cases s with
  | null | fixed | shuffled | shuffledAddresses | lookup => rfl
  | recording r =>
    obtain ⟨failures, h⟩ := report_state_recording r e
    rw [h, report_value_recording, report_value_recording]
    rfl
  | sequence q => exact hs.elim

/-- What a source of this library has offered, it hears the failure of. -/
theorem report_of_offered {s : Source} {e c : Endpoint} (hs : s.Unscripted)
    (h : c ∈ (candidates e s).value) : (s.report c).value = .ok () := by
  cases s with
  | null => cases h
  | fixed | shuffled | shuffledAddresses | lookup => rfl
  | recording r =>
    apply report_of_supports hs
    have hself : r.nodes.any (·.same c) = true := List.any_eq_true.mpr ⟨c, h, by simp⟩
    simp only [supports, hself, Bool.or_true]
  | sequence q => exact hs.elim

/-- What an endpoint resolves to is logged without a word about reports. -/
theorem quiet_resolve (r : Resolver) (e : Endpoint) :
    ∀ ev ∈ (r.resolve e).2, ¬ ev.TellsRefusal := by
  intro ev hev
  unfold Resolver.resolve at hev
  split at hev <;> simp [List.mem_singleton.mp hev, Event.tellsRefusal_iff]

/-- The sources of this library keep their promise one by one. -/
theorem roster_takesBack : roster.TakesBack Unscripted where
  stays_candidates := by
    intro s e hs
    cases s with
    | sequence q => exact hs.elim
    | _ => trivial
  stays_report := by
    intro s e hs
    cases s with
    | null | fixed | shuffled | shuffledAddresses | lookup => trivial
    | recording r =>
      obtain ⟨failures, h⟩ := report_state_recording r e
      show Unscripted (report e (recording r)).state
      rw [h]
      trivial
    | sequence q => exact hs.elim
  offered := fun hs h => (report_value_candidates hs _ _).trans (report_of_offered hs h)
  candidates := fun e _ hs h => (report_value_candidates hs e _).trans h
  report := fun e _ hs h => (report_value_report hs e _).trans h
  quiet_candidates := by
    intro s e hs ev hev
    cases s with
    | null | fixed | shuffled | recording => cases hev
    | shuffledAddresses nodes resolver dice =>
      obtain ⟨asked, -, hasked⟩ := List.mem_flatMap.mp hev
      exact quiet_resolve asked.1 asked.2 ev hasked
    | lookup resolver => exact quiet_resolve resolver e ev hev
    | sequence q => exact hs.elim
  quiet_report := by
    intro s e hs ev hev
    change ev ∈ (report e s).events at hev
    cases s with
    | null => cases hev
    | fixed | shuffled | shuffledAddresses | lookup =>
      simp [List.mem_singleton.mp hev, Event.tellsRefusal_iff]
    | recording r =>
      simp only [report] at hev
      split at hev <;> cases hev
    | sequence q => exact hs.elim

end Source

/-! ## Trees of sources -/

namespace Provider

/-- No source of the tree is the one whose answers are scripted. -/
def Unscripted (t : Provider) : Prop := ∀ s ∈ t.leaves, s.Unscripted

/-- A chain never refuses a report: it hands it to a source that can stand in for the endpoint, or
    drops it. -/
theorem accepts_chain {parts : List Provider} (h : Unscripted (.chain parts)) (c : Endpoint) :
    roster.Accepts (.chain parts) c := by
  have hleaves := Tree.reportFirst_leaves Source.roster c parts
  have hvalue : (roster.report c (.chain parts)).value =
      (Tree.reportLeaves Source.roster c (Tree.leavesOfAll parts)).value := by
    rw [← hleaves]
    rfl
  rw [Roster.Accepts, hvalue]
  exact Tree.reportLeaves_ok fun s hs => Source.report_of_supports (h s hs)

/-- No question makes a source one whose answers are scripted. -/
theorem roster_keeps_unscripted : roster.Keeps Unscripted := by
  apply Tree.roster_keeps (I := fun as : List Source => ∀ s ∈ as, s.Unscripted)
  · intro e as h s hs
    obtain ⟨a, ha, rfl⟩ := List.mem_map.mp hs
    exact Source.roster_takesBack.stays_candidates e (h a ha)
  · intro e a h s hs
    rw [List.mem_singleton.mp hs]
    exact Source.roster_takesBack.stays_report e (h a (List.mem_singleton_self a))
  · intro e as h s hs
    obtain hs | ⟨a, ha, rfl⟩ := Tree.mem_state_reportLeaves hs
    · exact h s hs
    · exact Source.roster_takesBack.stays_report e (h a ha)

/-- **Trees of the sources of this library take back what they give out.** -/
theorem roster_takesBack : roster.TakesBack Unscripted where
  stays_candidates := roster_keeps_unscripted.candidates
  stays_report := roster_keeps_unscripted.report
  offered := by
    intro t e c h hc
    cases t with
    | leaf s => exact Source.roster_takesBack.offered (h s (List.mem_singleton_self s)) hc
    | chain parts => exact accepts_chain (roster_keeps_unscripted.candidates e h) c
  candidates := by
    intro t e c h hc
    cases t with
    | leaf s => exact Source.roster_takesBack.candidates e (h s (List.mem_singleton_self s)) hc
    | chain parts => exact accepts_chain (roster_keeps_unscripted.candidates e h) c
  report := by
    intro t e c h hc
    cases t with
    | leaf s => exact Source.roster_takesBack.report e (h s (List.mem_singleton_self s)) hc
    | chain parts => exact accepts_chain (roster_keeps_unscripted.report e h) c
  quiet_candidates := by
    intro t e h ev hev
    obtain ⟨s, hs, hev⟩ := Tree.mem_events_candidates hev
    exact Source.roster_takesBack.quiet_candidates e (h s hs) ev hev
  quiet_report := by
    intro t e h ev hev
    obtain ⟨s, hs, hev⟩ | rfl := Tree.mem_events_report hev
    · exact Source.roster_takesBack.quiet_report e (h s hs) ev hev
    · simp [Event.tellsRefusal_iff]

end Provider

end Failover
