import Failover.Proofs.Client.Feedback
import Failover.Proofs.Client.Likeness
import Failover.Proofs.Client.Traffic
import Failover.Proofs.Session.Supply
/-!
# Rounds that are a single pass

Rounds without pauses, and with a budget of as many attempts as there are candidates at first, end
where a pass over those candidates ends: list and budget are used up together, so that candidates are
not asked for again.

* `Rounds.Passes` : what such rounds have in common with a pass.  `Rounds.Passes.mayContinue`,
  `Rounds.Passes.next`: it lasts, and both hand out the same;
* `Client.execute_rounds` : so requests go the same way under both policies;
* `Client.asked` : how often the providers are asked for candidates.  `Client.asked_eachOnce`: once
  for a pass;
* `Client.policies_agree` : the two policies beside each other.
-/

set_option autoImplicit false

namespace Failover

variable {σ τ : Type}

namespace Rounds

/-- Rounds without pauses stand where a pass stands, with budget for just what waits. -/
structure Passes (r : Rounds) (p : Pass) : Prop where
  waiting : r.waiting = p.waiting
  attempts : r.attempts = p.attempts
  budget : r.plan.budget = p.attempts + p.waiting.length
  unpaused : r.plan.multiplier = .zero
  cancelled : r.cancelled = false
  hasCandidates : p.waiting ≠ [] → r.hasCandidates = true

variable {r : Rounds} {p : Pass}

theorem delay_of_unpaused (h : r.plan.multiplier = .zero) : r.delay.nanos = 0 := by
  unfold delay Backoff.delayAfter
  split
  · rfl
  · rw [h, Duration.nanos_scale, Duration.nanos_zero, Nat.zero_mul, Nat.zero_min]

theorem pause_of_unpaused (h : r.plan.multiplier = .zero) (c : Cancellation) (now : Nat) :
    r.pause c now = (r, now) := by
  rw [pause, if_pos (delay_of_unpaused h)]

theorem pauseEvents_of_unpaused (h : r.plan.multiplier = .zero) (c : Cancellation) (now : Nat) :
    r.pauseEvents c now = [] := by
  rw [pauseEvents, if_pos (delay_of_unpaused h)]

theorem Passes.mayContinue (h : r.Passes p) (now : Nat) :
    r.mayContinue .never now = !p.waiting.isEmpty := by
  unfold Rounds.mayContinue
  rw [h.cancelled, h.attempts, h.budget, Cancellation.isCancelled_never]
  cases hw : p.waiting with
  | nil => simp
  | cons e rest =>
    have hhas : r.hasCandidates = true := h.hasCandidates (by simp [hw])
    simp [hhas]

/-- The answer of rounds is that of the pass, and they still stand at the same place. -/
theorem Passes.next (h : r.Passes p) (R : Roster σ) (c : Cancellation) (now : Nat) (st : σ) :
    ∃ r' : Rounds, r.next R c now st = ⟨p.next.1, .rounds r', now, st, []⟩ ∧ r'.Passes p.next.2 := by
  obtain ⟨hb, hn⟩ | ⟨hb, hw, -⟩ | ⟨e, rest, hb, hw, hn⟩ := r.next_cases R c now st
  · have hlength : p.waiting.length = 0 := by
      have := h.budget
      have := h.attempts
      omega
    have hp : p.next = (.error (.sessionExhausted p.attempts), p) := by
      rw [Pass.next, List.length_eq_zero_iff.mp hlength]
    exact ⟨r, by rw [hn, hp, h.attempts], by rw [hp]; exact h⟩
  · -- With no candidate left there is no budget left.
    have hnone : p.waiting = [] := h.waiting.symm.trans hw
    have hbudget := h.budget
    rw [hnone, List.length_nil, ← h.attempts] at hbudget
    omega
  · have hwaiting : p.waiting = e :: rest := h.waiting.symm.trans hw
    have hp : p.next = (.ok e, ⟨rest, p.attempts + 1⟩) := by rw [Pass.next, hwaiting]
    have hbudget : r.plan.budget = r.attempts + 1 + rest.length := by
      rw [h.budget, hwaiting, h.attempts, List.length_cons]
      omega
    let r' : Rounds := { r with waiting := rest, attempts := r.attempts + 1 }
    have htaking : r.taking R c now rest st = .of r' st := by
      rw [taking, pause_of_unpaused h.unpaused]
      obtain ⟨hrest, hlt, -⟩ | ⟨-, hkept⟩ := refill_cases R r' st
      · -- The last candidate takes the last of the budget.
        have hrest : rest = [] := hrest
        have hlt : r.attempts + 1 < r.plan.budget := hlt
        rw [hbudget, hrest, List.length_nil] at hlt
        omega
      · exact hkept
    refine ⟨r', ?_, ?_⟩
    · rw [hn, hp, htaking, pause_of_unpaused h.unpaused, pauseEvents_of_unpaused h.unpaused]
      rfl
    · rw [hp]
      refine ⟨rfl, congrArg (· + 1) h.attempts, ?_, h.unpaused, h.cancelled, ?_⟩
      · rw [← h.attempts]
        exact hbudget
      · intro _
        exact h.hasCandidates (by simp [hwaiting])

theorem passes_start (supplied : Endpoint) (found : List Endpoint) :
    Passes ⟨⟨found.length, .zero⟩, supplied, found, !found.isEmpty, false, 0⟩ ⟨found, 0⟩ where
  waiting := rfl
  attempts := rfl
  budget := (Nat.zero_add _).symm
  unpaused := rfl
  cancelled := rfl
  hasCandidates h := by simpa using h

end Rounds

namespace Likeness

/-- Requests that differ in their sessions alone. -/
def handing (H : Session → Session → Prop) : Likeness τ τ :=
  { same (fun t t' => t' = t) with session := H }

variable {H : Session → Session → Prop}

theorem handing_outcome {o o' : Except Fault Response} (h : (handing H : Likeness τ τ).Outcome o o') :
    o' = o := by
  cases h with
  | answered h | failed h => exact congrArg _ h

theorem handing_tried {a a' : Attempt} (h : (handing H : Likeness τ τ).Tried a a') : a' = a := by
  obtain ⟨candidate, request, started, held, o, elapsed⟩ := a
  obtain ⟨_, _, _, held', o', _⟩ := a'
  obtain ⟨rfl, hrequest, rfl, hheld, ho, rfl⟩ := h
  obtain rfl := hrequest
  obtain rfl := handing_outcome ho
  cases hheld with
  | none => rfl
  | some hr =>
    obtain rfl := hr
    rfl

/-- Whole requests that differ in their sessions alone do not differ in the end. -/
theorem handing_whole {x x' : Execution σ τ} (h : (handing H).Whole x x') : x' = x := by
  obtain ⟨o, ⟨_, _, _, _⟩, trail, _, _, events⟩ := x
  obtain ⟨o', ⟨_, _, _, _⟩, trail', _, _, events'⟩ := x'
  obtain ⟨ho, ⟨rfl, ht, rfl, rfl⟩, htrail, rfl, rfl, hevents⟩ := h
  obtain rfl := ht
  have htrail : trail' = trail := by
    simpa using map_eq_of_forall₂ (f := id) (g := id) (fun _ _ => handing_tried) htrail
  have hevents : events' = events := entries_eq (fun _ _ h => h) (fun _ _ h => h) hevents
  have ho : o' = o := by
    cases ho with
    | answered h | failed h =>
      obtain rfl := h
      rfl
    | same => rfl
  rw [htrail, hevents, ho]

/-- Sessions that are alike are all that two policies of one client need to agree. -/
theorem handing_lawful [DomainNames] {R : Roster σ} {context : Context}
    (h : (handing H : Likeness τ τ).Paired R context) (T : Transport τ) (c : Client)
    (policy : Policy) : (handing H).Lawful R T T c { c with policy := policy } context where
  toPaired := h
  shortName := rfl
  optIn := rfl
  aim := by
    rintro _ r rfl
    exact ⟨rfl, rfl, rfl⟩
  prepare := by
    rintro _ r rfl e
    exact prepared_refl (fun _ => rfl) _
  given h := h
  send := by
    rintro _ r _ t rfl rfl
    exact ⟨outcome_refl (fun _ => rfl) (fun _ => rfl) _, rfl, rfl⟩
  status := by
    rintro _ r rfl
    rfl
  drain := by
    rintro _ r rfl
    exact ⟨rfl, rfl, rfl⟩
  root := by
    rintro _ f rfl
    exact ⟨rfl, rfl⟩
  tell ha := by
    rw [handing_tried ha]
    rfl

end Likeness

/-! ## The two policies -/

/-- A pass beside rounds that stand where it stands. -/
inductive Session.Matched : Session → Session → Prop where
  | intro {p : Pass} {r : Rounds} (h : r.Passes p) : Matched (.pass p) (.rounds r)

theorem Session.matched_paired (R : Roster σ) {context : Context}
    (hnever : context.cancellation = .never) :
    (Likeness.handing Session.Matched : Likeness τ τ).Paired R context where
  mayContinue := by
    rintro _ _ ⟨h⟩ now
    rw [hnever]
    exact h.mayContinue now
  bound := by
    rintro _ _ (@⟨p, r, h⟩)
    show r.plan.budget - r.attempts = p.waiting.length
    rw [h.budget, h.attempts, Nat.add_sub_cancel_left]
  next := by
    rintro _ _ (@⟨p, r, h⟩) now st
    obtain ⟨r', hnext, hr'⟩ := h.next R context.cancellation now st
    show Likeness.Handed _ _ (r.next R context.cancellation now st)
    rw [hnext]
    exact ⟨rfl, .intro hr', rfl, rfl, rfl⟩

namespace Client

/-- Rounds without pauses, with a budget of as many attempts as there are candidates at first, make
    of a request what a pass makes of it. -/
theorem execute_rounds [DomainNames] (R : Roster σ) (T : Transport τ) (c : Client) (r : Request)
    {context : Context} (hnever : context.cancellation = .never) (w : World σ τ) {n : Nat}
    (hn : ∀ e, r.endpoint = .ok e →
      (R.candidates (e.withDefaultPort suppliedPort) w.roster).value.length = n) :
    execute R T { c with policy := .backoff ⟨n, .zero⟩ } r context w =
      execute R T { c with policy := .eachOnce } r context w := by
  have hlawful := Likeness.handing_lawful (Session.matched_paired R hnever) T
    { c with policy := .eachOnce } (.backoff ⟨n, .zero⟩)
  refine Likeness.handing_whole (hlawful.execute rfl ⟨rfl, rfl, rfl, rfl⟩ ?_)
  intro e he
  obtain rfl := hn e he
  exact .intro (Rounds.passes_start _ _)

/-- How often the providers are asked for candidates while a request is executed. -/
def asked [DomainNames] (R : Roster σ) (T : Transport τ) (c : Client) (r : Request)
    (context : Context) (w : World σ τ) : Nat :=
  (c.execute R.counting T r context ⟨(w.roster, 0), w.transport, w.now, w.stats⟩).world.roster.2

/-- Whoever asks a counting roster does not notice. -/
theorem counting_shows (R : Roster σ) : R.counting.Shows Prod.fst R :=
  ⟨fun _ _ => rfl, fun _ _ => rfl, fun _ _ => rfl⟩

/-- A pass asks for candidates when it starts, and then never again. -/
theorem run_asked_once [DomainNames] (R : Roster σ) (T : Transport τ) {j : Job}
    (hpolicy : j.client.policy = .eachOnce) (w : World (σ × Nat) τ) :
    (j.run R.counting T w).2.roster.2 = w.roster.2 + 1 := by
  let P : Progress (σ × Nat) τ → Prop := fun p =>
    (∃ pass, p.session = .pass pass) ∧ p.roster.2 = w.roster.2 + 1
  have hrun : P (j.run R.counting T w).2 := by
    refine Job.run_keeps (P := P) ?_ ?_
    · rintro p - ⟨⟨pass, hpass⟩, hcount⟩
      have hasked : j.asked R.counting p = ⟨pass.next.1, .pass pass.next.2, p.now, p.roster, []⟩ := by
        rw [Job.asked, hpass]
        rfl
      obtain ⟨hsession, hroster⟩ := j.step_roster R.counting T p
      rw [hasked] at hsession hroster
      refine ⟨⟨_, hsession⟩, ?_⟩
      obtain hroster | ⟨e, -, -, hroster⟩ := hroster
      · rw [hroster, hcount]
      · rw [hroster]
        exact hcount
    · refine ⟨?_, rfl⟩
      show ∃ pass, (Session.start R.counting j.client.policy j.supplied w.roster).value = .pass pass
      rw [hpolicy]
      exact ⟨_, rfl⟩
  exact hrun.2

/-- A pass asks for candidates once, if the request gets to it. -/
theorem asked_eachOnce [DomainNames] (R : Roster σ) (T : Transport τ) {c : Client}
    (hpolicy : c.policy = .eachOnce) (r : Request) (context : Context) (w : World σ τ) :
    c.asked R T r context w = if (c.execute R T r context w).tally.isSome then 1 else 0 := by
  have hshown := congrArg Execution.tally (execute_mapRoster (counting_shows R) T c r context
    ⟨(w.roster, 0), w.transport, w.now, w.stats⟩)
  have htally : (c.execute R T r context w).tally = (c.execute R.counting T r context
    ⟨(w.roster, 0), w.transport, w.now, w.stats⟩).tally := hshown.symm
  unfold asked
  rw [htally]
  obtain ⟨-, hx⟩ | ⟨f, hx⟩ | ⟨supplied, -, -, hx⟩ := execute_cases R.counting T c r context
    ⟨(w.roster, 0), w.transport, w.now, w.stats⟩
  · rw [hx]
    rfl
  · rw [hx]
    rfl
  · rw [hx]
    exact run_asked_once R T (j := c.job r supplied context) hpolicy _

/-- **The two policies agree where they overlap.**  For a caller that waits as long as it takes,
    rounds without pauses that may make just as many attempts as there are candidates at first do
    what a pass over those candidates does: in all that becomes of the request, in what the transport
    is sent and in what the providers hear.  Both ask for candidates once, whatever later lists would
    be, if the request gets to a session at all. -/
theorem policies_agree [DomainNames] (R : Roster σ) (T : Transport τ) (c : Client) (r : Request)
    (context : Context) (hnever : context.cancellation = .never) (w : World σ τ) {n : Nat}
    (hn : ∀ e, r.endpoint = .ok e →
      (R.candidates (e.withDefaultPort suppliedPort) w.roster).value.length = n) :
    let once : Client := { c with policy := .eachOnce }
    let rounds : Client := { c with policy := .backoff ⟨n, .zero⟩ }
    rounds.execute R T r context w = once.execute R T r context w ∧
      rounds.sent R T r context w = once.sent R T r context w ∧
      rounds.calls R T r context w = once.calls R T r context w ∧
      rounds.asked R T r context w = once.asked R T r context w ∧
      once.asked R T r context w =
        if (once.execute R T r context w).tally.isSome then 1 else 0 := by
  intro once rounds
  refine ⟨execute_rounds R T c r hnever w hn, ?_, ?_, ?_, asked_eachOnce R T rfl r context w⟩
  · have hrecorded := execute_rounds R T.recorded c r hnever
      ⟨w.roster, (w.transport, []), w.now, w.stats⟩ hn
    exact congrArg (fun x => x.world.transport.2) hrecorded
  · have hoverheard := execute_rounds R.overheard T c r hnever
      ⟨(w.roster, []), w.transport, w.now, w.stats⟩ hn
    exact congrArg (fun x => x.world.roster.2) hoverheard
  · have hcounted := execute_rounds R.counting T c r hnever
      ⟨(w.roster, 0), w.transport, w.now, w.stats⟩ hn
    exact congrArg (fun x => x.world.roster.2) hcounted

/-- Three attempts without pauses go through the first list of three candidates, and a second list
    never comes up. -/
theorem rehearsed_policies :
    let first : List Endpoint := [.of "::1" none, .of "::2" none, .of "::3" none]
    let R : Roster Nat :=
      ⟨fun _ n => ⟨if n = 0 then first else [.of "::9" none], n + 1, []⟩, fun _ _ => true,
        fun _ n => .of (.ok ()) n⟩
    let w : World Nat Script := ⟨0, Rehearsal.world.transport, 0, .zero⟩
    let rounds : Client := { Rehearsal.client with policy := .backoff ⟨3, .zero⟩ }
    let request := Rehearsal.request "PUT"
    (∀ e, request.endpoint = .ok e →
        (R.candidates (e.withDefaultPort suppliedPort) w.roster).value.length = 3) ∧
      (rounds.execute R Script.transport request .empty w).trail.map (·.candidate) = first ∧
      rounds.execute R Script.transport request .empty w =
        Rehearsal.client.execute R Script.transport request .empty w ∧
      rounds.asked R Script.transport request .empty w = 1 := by
  intro first R w rounds request
  have hthree : ∀ e, request.endpoint = .ok e →
      (R.candidates (e.withDefaultPort suppliedPort) w.roster).value.length = 3 := fun _ _ => rfl
  obtain ⟨hsame, -, -, hasked, honce⟩ :=
    policies_agree R Script.transport Rehearsal.client request .empty rfl w hthree
  have hsame : rounds.execute R Script.transport request .empty w =
      Rehearsal.client.execute R Script.transport request .empty w := hsame
  refine ⟨hthree, ?_, hsame, (hasked.trans honce).trans ?_⟩
  · rw [hsame]
    decide +kernel
  · decide +kernel

end Client

end Failover
