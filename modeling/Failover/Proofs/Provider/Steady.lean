import Failover.Proofs.Client.Feedback
/-!
# What providers stand in for

Sources change as they are asked and hear of failures; what they stand in for does not.

* `Roster.OffersOnly` : in states that are kept, only candidates of one kind are offered.
  `Session.OffersOnly`: so a session hands out no others;
* `Provider.roster_keeps_supports` : trees of the sources of this library always stand in for the
  same endpoints;
* `Client.execute_keeps` : neither does a request lead out of such states.  `Client.serve`: several
  requests one after another.
-/

set_option autoImplicit false

namespace Failover

variable {σ τ : Type}

/-- In the states `I`, out of which nothing leads, only candidates with `P` are offered. -/
structure Roster.OffersOnly (R : Roster σ) (I : σ → Prop) (P : Endpoint → Prop) : Prop
    extends R.Keeps I where
  offered : ∀ {st : σ} (e : Endpoint), I st → ∀ c ∈ (R.candidates e st).value, P c

/-! ## Sources and trees of them -/

namespace Source

theorem supports_candidates (e e' : Endpoint) (s : Source) :
    (candidates e s).state.supports e' = s.supports e' := by
  cases s <;> rfl

theorem supports_report (e e' : Endpoint) (s : Source) :
    (report e s).state.supports e' = s.supports e' := by
  cases s with
  | null | fixed | shuffled | shuffledAddresses | lookup => rfl
  | recording r =>
    obtain ⟨failures, hstate⟩ := report_state_recording r e
    rw [hstate]
    rfl
  | sequence q =>
    simp only [report]
    split <;> rfl

end Source

namespace Provider

/-- A report changes at most the record of one leaf. -/
theorem supports_reportLeaves (e e' : Endpoint) : ∀ as : List Source,
    (Tree.reportLeaves Source.roster e as).state.any (Source.roster.supports · e') =
      as.any (Source.roster.supports · e')
  | [] => rfl
  | a :: as => by
    have ha : Source.roster.supports (Source.roster.report e a).state e' =
        Source.roster.supports a e' := Source.supports_report e e' a
    unfold Tree.reportLeaves
    split
    · simp only [Reply.state_mapState, List.any_cons, ha]
    · simp only [Reply.state_mapState, List.any_cons, supports_reportLeaves e e' as]

/-- **What a provider stands in for never changes.** -/
theorem roster_keeps_supports (known : Endpoint → Bool) :
    roster.Keeps fun t => ∀ e, roster.supports t e = known e := by
  have hleaves : (fun t : Provider => ∀ e, roster.supports t e = known e) =
      fun t => ∀ e, t.leaves.any (Source.roster.supports · e) = known e :=
    funext fun t => propext
      (forall_congr' fun e => by rw [← Tree.supports_leaves Source.roster e t]; rfl)
  rw [hleaves]
  apply Tree.roster_keeps (I := fun as => ∀ e, as.any (Source.roster.supports · e) = known e)
  · intro e as h e'
    rw [← h e', List.any_map]
    exact congrArg as.any (funext fun s => Source.supports_candidates e e' s)
  · intro e s h e'
    rw [← h e']
    exact congrArg (· || false) (Source.supports_report e e' s)
  · intro e as h e'
    rw [← h e', supports_reportLeaves]

end Provider

/-! ## Requests -/

/-- A session in such a state, with candidates of this kind. -/
structure Session.OffersOnly (I : σ → Prop) (P : Endpoint → Prop) (s : Session) (st : σ) :
    Prop where
  state : I st
  waiting : ∀ e ∈ s.waiting, P e

namespace Session

variable {R : Roster σ} {I : σ → Prop} {P : Endpoint → Prop} (hR : R.OffersOnly I P)
include hR

theorem start_offersOnly (policy : Policy) (supplied : Endpoint) {st : σ} (h : I st) :
    OffersOnly I P (start R policy supplied st).value (start R policy supplied st).state := by
  refine ⟨hR.candidates supplied h, ?_⟩
  intro e he
  apply hR.offered supplied h
  cases policy with
  | eachOnce => exact he
  | backoff plan => exact he

/-- The host is one of the candidates that wait, and those that wait then were waiting before, or
    are offered when they are asked for again. -/
theorem OffersOnly.next {s : Session} {st : σ} (h : OffersOnly I P s st) (c : Cancellation)
    (now : Nat) : OffersOnly I P (s.next R c now st).session (s.next R c now st).state ∧
      ∀ e, (s.next R c now st).host = .ok e → P e := by
  refine ⟨?_, fun e he => h.waiting e (s.mem_waiting_of_next R he)⟩
  obtain ⟨hstate, -, hwaiting⟩ | ⟨supplied, hstate, -, hwaiting⟩ := s.next_roster R c now st
  · rw [hstate]
    exact ⟨h.state, fun e he => h.waiting e (hwaiting e he)⟩
  · refine ⟨?_, ?_⟩
    · rw [hstate]
      exact hR.candidates supplied h.state
    · rw [hwaiting]
      exact hR.offered supplied h.state

end Session

section

variable {R : Roster σ} {I : σ → Prop} (hR : R.Keeps I)
include hR

theorem Job.step_keeps [DomainNames] (T : Transport τ) (j : Job) {p : Progress σ τ}
    (h : I p.roster) : I (j.step R T p).progress.roster := by
  have hasked : I (j.asked R p).state :=
    Session.next_state_keeps (fun e _ => hR.candidates e) _ _ _ h
  obtain hroster | ⟨e, request, -, hroster⟩ := (j.step_roster R T p).2
  · rw [hroster]
    exact hasked
  · rw [hroster]
    exact hR.report e hasked

/-- A request does not lead out of the states either. -/
theorem Client.execute_keeps [DomainNames] (T : Transport τ) (c : Client) (r : Request)
    (context : Context) {w : World σ τ} (h : I w.roster) :
    I (c.execute R T r context w).world.roster := by
  obtain ⟨-, hx⟩ | ⟨f, hx⟩ | ⟨supplied, -, -, hx⟩ := execute_cases R T c r context w
  · rw [hx]
    exact h
  · rw [hx]
    exact h
  · rw [hx]
    exact Job.run_keeps (P := fun p => I p.roster) (fun p _ hp => Job.step_keeps hR T _ hp)
      (hR.candidates _ h)

end

namespace Client

/-- The world after requests one after another. -/
def serve [DomainNames] (R : Roster σ) (T : Transport τ) (c : Client) :
    World σ τ → List (Request × Context) → World σ τ
  | w, [] => w
  | w, (r, context) :: rest => c.serve R T (c.execute R T r context w).world rest

theorem serve_keeps [DomainNames] {R : Roster σ} {I : σ → Prop} (hR : R.Keeps I) (T : Transport τ)
    (c : Client) : ∀ (requests : List (Request × Context)) {w : World σ τ}, I w.roster →
      I (c.serve R T w requests).roster
  | [], _, h => h
  | (r, context) :: rest, _, h => serve_keeps hR T c rest (execute_keeps hR T c r context h)

end Client

end Failover
