import Failover.Proofs.Client.Likeness
import Failover.Proofs.Client.Traffic
/-!
# Contexts added to faults

A transport may enclose its faults in contexts that say more of what was going on.  That changes what
is told and nothing of what is done: all that is decided by a fault is decided by its root.

* `Likeness.enclosed` : what does not differ but in contexts around faults;
* `Likeness.enclosed_lawful` : no part of a run looks at the contexts;
* `Transport.inContext` : a transport with a context around each of its faults;
* `Client.enclosed_faults_change_nothing` : whole requests beside each other.
-/

set_option autoImplicit false

namespace Failover

variable {σ τ τ' : Type}

namespace Likeness

/-- Nothing but faults differs, these by contexts around them, and what is told of them. -/
def enclosed (S : τ → τ' → Prop) : Likeness τ τ' :=
  { same S with
    fault := fun f f' => ∃ contexts, f' = f.under contexts
    report := fun a a' => a'.isError = a.isError }

variable {S : τ → τ' → Prop} {T : Transport τ} {T' : Transport τ'}

/-- To keep the requests that are sent does not change the answers. -/
theorem enclosed_recorded (h : (enclosed S).Answer T T') :
    (enclosed fun t t' => S t.1 t'.1 ∧ t'.2 = t.2).Answer T.recorded T'.recorded := by
  rintro _ r ⟨t, sent⟩ ⟨t', _⟩ rfl ⟨ht, rfl⟩
  obtain ⟨houtcome, helapsed, hstate⟩ := h _ _ _ _ rfl ht
  have hsame : ∀ {o o'}, (enclosed S).Outcome o o' →
      (enclosed fun t t' : _ × List Request => S t.1 t'.1 ∧ t'.2 = t.2).Outcome o o' := by
    intro o o' ho
    cases ho with
    | answered hr => exact .answered hr
    | failed hf => exact .failed hf
  exact ⟨hsame houtcome, helapsed, hstate, rfl⟩

theorem enclosed_lawful [DomainNames] (h : (enclosed S).Answer T T') (R : Roster σ) (c : Client)
    (context : Context) :
    (enclosed S).Lawful R T T' c c context where
  toPaired := paired_of_eq (fun _ _ => .rfl) R context
  shortName := rfl
  optIn := rfl
  aim := by
    rintro r _ rfl
    exact ⟨rfl, rfl, rfl⟩
  prepare := by
    rintro r _ rfl e
    exact prepared_refl (fun _ => rfl) _
  given h := h
  send := h
  status := by
    rintro r _ rfl
    rfl
  drain := by
    rintro r _ rfl
    exact ⟨rfl, rfl, rfl⟩
  root := by
    rintro f _ ⟨contexts, rfl⟩
    exact ⟨f.isIo_under contexts, f.isUncertain_under contexts⟩
  tell := by
    rintro ⟨_, _, _, _, o, _⟩ ⟨_, _, _, _, o', _⟩ ⟨_, _, _, _, ho, _⟩
    cases ho with
    | answered hr =>
      obtain rfl := hr
      rfl
    | failed => rfl

theorem enclosed_level {ev ev' : Event} (h : (enclosed S).Entry ev ev') :
    ev'.level = ev.level ∧ ev'.message = ev.message := by
  cases h with
  | same => exact ⟨rfl, rfl⟩
  | @attempt a a' h =>
    have herror : a'.isError = a.isError := h
    exact ⟨by rw [Event.level, Event.level, herror], rfl⟩
  | tryingNext | notRetrying | stateUnknown => exact ⟨rfl, rfl⟩

end Likeness

/-- The transport with one context around each of its faults. -/
def Transport.inContext (T : Transport τ) (context : String) : Transport τ :=
  ⟨fun r t =>
    let d := T.send r t
    { d with outcome := d.outcome.mapError (.wrapped context) }⟩

theorem Transport.answer_inContext (T : Transport τ) (context : String) :
    (Likeness.enclosed (fun t t' => t' = t)).Answer T (T.inContext context) := by
  rintro _ r _ t rfl rfl
  refine ⟨?_, rfl, rfl⟩
  show Likeness.Outcome _ (T.send r t).outcome ((T.send r t).outcome.mapError (.wrapped context))
  cases (T.send r t).outcome with
  | ok answer => exact .answered rfl
  | error f => exact .failed ⟨[context], rfl⟩

namespace Client

variable {T : Transport τ} {T' : Transport τ'} {S : τ → τ' → Prop}

theorem sent_enclosed [DomainNames] (h : (Likeness.enclosed S).Answer T T') (R : Roster σ)
    (c : Client) (r : Request) (context : Context) (w : World σ τ) {t' : τ'}
    (ht : S w.transport t') :
    c.sent R T' r context ⟨w.roster, t', w.now, w.stats⟩ = c.sent R T r context w :=
  have hlawful := Likeness.enclosed_lawful (Likeness.enclosed_recorded h) R c context
  (hlawful.execute rfl ⟨rfl, ⟨ht, rfl⟩, rfl, rfl⟩ fun _ _ => rfl).world.transport.2

/-- **Contexts around faults change nothing but what is told.**  Two transports that answer alike but
    for such contexts are sent the same requests in the same order, in attempts at the same instants,
    and the same failures are reported.  Both requests count the same and leave providers, clock and
    counters the same.  Their log has entries of the same kinds and levels, and if their results
    differ at all, then they are faults and differ in contexts. -/
theorem enclosed_faults_change_nothing [DomainNames] (h : (Likeness.enclosed S).Answer T T')
    (R : Roster σ) (c : Client) (r : Request) (context : Context) (w : World σ τ) {t' : τ'}
    (ht : S w.transport t') :
    let w' : World σ τ' := ⟨w.roster, t', w.now, w.stats⟩
    let run := c.execute R T r context w
    let run' := c.execute R T' r context w'
    c.sent R T' r context w' = c.sent R T r context w ∧
      (run'.trail.map fun a => (a.candidate, a.request, a.started, a.elapsed)) =
        (run.trail.map fun a => (a.candidate, a.request, a.started, a.elapsed)) ∧
      run'.reports = run.reports ∧
      run'.tally = run.tally ∧
      run'.world.stats = run.world.stats ∧
      run'.world.now = run.world.now ∧
      run'.world.roster = run.world.roster ∧
      S run.world.transport run'.world.transport ∧
      (run'.events.map fun ev => (ev.level, ev.message)) =
        (run.events.map fun ev => (ev.level, ev.message)) ∧
      (Likeness.enclosed S).Result run.outcome run'.outcome := by
  intro w' run run'
  have hlawful := Likeness.enclosed_lawful h R c context
  obtain ⟨houtcome, ⟨hroster, htransport, hnow, hstats⟩, htrail, hreports, htally, hevents⟩ :
      (Likeness.enclosed S).Whole run run' := hlawful.execute rfl ⟨rfl, ht, rfl, rfl⟩ fun _ _ => rfl
  refine ⟨sent_enclosed h R c r context w ht, ?_, hreports, htally, hstats, hnow, hroster,
    htransport, ?_, houtcome⟩
  · refine map_eq_of_forall₂ (fun a a' ha => ?_) htrail
    obtain ⟨hcandidate, hrequest, hstarted, -, -, helapsed⟩ := ha
    have hrequest : a'.request = a.request := hrequest
    rw [hcandidate, hrequest, hstarted, helapsed]
  · refine map_eq_of_forall₂ (fun ev ev' hev => ?_) hevents
    obtain ⟨hlevel, hmessage⟩ := Likeness.enclosed_level hev
    rw [hlevel, hmessage]

/-- In the rehearsal of a POST request, a host that could not be connected to in time is followed by
    the next, although a context mentions reading. -/
theorem rehearsed_in_context :
    let script : Script :=
      ⟨[("[::1]:8080", [.ofStatus 503 []]), ("[::2]:8080", [.ofFault (.io .timedOut "connecting")]),
        ("[::3]:8080", [.ofFault (.other "no such protocol")])], []⟩
    let w : World Provider Script := { Rehearsal.world with transport := script }
    let T := Script.transport.inContext "before the answer was read"
    let L : Likeness Script Script := .enclosed fun t t' => t' = t
    let run := Rehearsal.client.execute Provider.roster Script.transport (Rehearsal.request "POST")
      .empty w
    let run' := Rehearsal.client.execute Provider.roster T (Rehearsal.request "POST") .empty w
    L.Answer Script.transport T ∧
      (run.reports.map (·.host) = ["::1", "::2"] ∧ run'.reports = run.reports) ∧
      ((Rehearsal.client.sent Provider.roster T (Rehearsal.request "POST") .empty w).map
        (·.authorityText) = ["[::1]:8080", "[::2]:8080", "[::3]:8080"]) ∧
      Client.outcomeLabel run.outcome = "exception" ∧
      L.Result run.outcome run'.outcome := by
  intro script w T L run run'
  have halike := Script.transport.answer_inContext "before the answer was read"
  obtain ⟨hsent, -, hreports, -, -, -, -, -, -, houtcome⟩ := enclosed_faults_change_nothing halike
    Provider.roster Rehearsal.client (Rehearsal.request "POST") .empty w rfl
  refine ⟨halike, ⟨by decide +kernel, hreports⟩, ?_, by decide +kernel, houtcome⟩
  have hsent : Rehearsal.client.sent Provider.roster T (Rehearsal.request "POST") .empty w = _ := hsent
  rw [hsent]
  decide +kernel

end Client

end Failover
