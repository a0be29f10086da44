import Failover.Proofs.Client.Feedback
import Failover.Proofs.Client.OwnNodes
import Failover.Proofs.Provider.Choice
/-!
# The same place twice

The nodes of a configuration name different places.  On their admin ports they need not.

* `Job.OnePass` : a request on its only pass over a list.  `Client.execute_onePass`: a client that tries
  every candidate once makes its attempts in the order of the list, none of them twice;
* `Configuration.offered_once_iff` : when the same place is never offered twice, nor tried twice;
* `Configuration.offered_twice` : nodes of which one place is offered twice.
-/

set_option autoImplicit false

namespace Failover

variable {σ τ : Type}

/-! ## One pass -/

/-- The host that is handed out was the first that waited. -/
theorem Pass.waiting_of_next {p : Pass} {e : Endpoint} (h : p.next.1 = .ok e) :
    p.waiting = e :: p.next.2.waiting := by
  unfold next at h ⊢
  cases hw : p.waiting with
  | nil =>
    rw [hw] at h
    cases h
  | cons first rest =>
    rw [hw] at h
    cases h
    rfl

theorem Pass.waiting_next_sublist (p : Pass) : p.next.2.waiting.Sublist p.waiting := by
  cases hnext : p.next.1 with
  | ok e =>
    rw [waiting_of_next hnext]
    exact List.sublist_cons_self e _
  | error f =>
    unfold next at hnext ⊢
    cases hw : p.waiting with
    | nil => simp [hw]
    | cons first rest =>
      rw [hw] at hnext
      cases hnext

namespace Job

variable {R : Roster σ} {T : Transport τ} {j : Job} {es : List Endpoint} {p : Progress σ τ}

/-- The request is on its only pass over `es`: what was tried and what still waits stand there, in this
    order. -/
def OnePass (es : List Endpoint) (p : Progress σ τ) : Prop :=
  ∃ pass, p.session = .pass pass ∧ (p.trail.map (·.candidate) ++ pass.waiting).Sublist es

/-- One step more tries the next candidate, or passes over it. -/
theorem OnePass.step [DomainNames] (h : OnePass es p) : OnePass es (j.step R T p).progress := by
  obtain ⟨pass, hpass, hsublist⟩ := h
  obtain ⟨hsession, -⟩ := step_roster R T j p
  obtain ⟨hsent, hunsent⟩ := step_trail R T j p
  have hasked : j.asked R p = ⟨pass.next.1, .pass pass.next.2, p.now, p.roster, []⟩ := by
    rw [asked, hpass]
    rfl
  rw [hasked] at hsession
  refine ⟨pass.next.2, hsession, ?_⟩
  by_cases hs : ∃ e request, Sendable R j p e request
  · obtain ⟨e, request, hs⟩ := hs
    have hhost : pass.next.1 = .ok e := by
      rw [← hs.asked, hasked]
    rw [Pass.waiting_of_next hhost] at hsublist
    rwa [hsent e request hs, List.map_append, List.append_assoc]
  · -- A host that was handed out is passed over if no request goes to it.
    rw [hunsent fun e request hsendable => hs ⟨e, request, hsendable⟩]
    exact ((List.append_sublist_append_left _).mpr pass.waiting_next_sublist).trans hsublist

theorem run_onePass [DomainNames] (R : Roster σ) (T : Transport τ) {j : Job}
    (hj : j.client.policy = .eachOnce) (w : World σ τ) :
    OnePass (R.candidates j.supplied w.roster).value (j.run R T w).2 := by
  refine run_keeps (fun p _ h => h.step) ?_
  refine ⟨⟨(R.candidates j.supplied w.roster).value, 0⟩, ?_, List.Sublist.refl _⟩
  show (Session.start R j.client.policy j.supplied w.roster).value = _
  rw [hj]
  rfl

end Job

/-- **A client that tries every candidate once** makes its attempts in the order of the candidates that it
    is offered at the beginning, none of them twice. -/
theorem Client.execute_onePass [DomainNames] (R : Roster σ) (T : Transport τ) {c : Client}
    (hc : c.policy = .eachOnce) (r : Request) (context : Context) (w : World σ τ) :
    ∃ e, ((c.execute R T r context w).trail.map (·.candidate)).Sublist
      (R.candidates e w.roster).value := by
  obtain ⟨-, hrun⟩ | ⟨f, hrun⟩ | ⟨supplied, -, -, hrun⟩ := execute_cases R T c r context w
  · rw [hrun]
    exact ⟨default, List.nil_sublist _⟩
  · rw [hrun]
    exact ⟨default, List.nil_sublist _⟩
  · rw [hrun]
    obtain ⟨pass, -, hsublist⟩ := Job.run_onePass R T (j := c.job r supplied context) hc w
    exact ⟨_, (List.sublist_append_left _ _).trans hsublist⟩

/-! ## Nodes on their admin ports -/

namespace Configuration

/-- The nodes name different places on the ports on which they are addressed, unless two of them share
    a host and an admin port, and those are used. -/
theorem apart_addressed_iff {c : Configuration} (hc : c.WellFormed) (admin : Bool) :
    ((Strategy.addressed admin c.primaryNodes).Pairwise fun a b => a.same b = false) ↔
      (admin = true →
        c.primaryNodes.Pairwise fun a b => a.host = b.host → a.adminPort ≠ b.adminPort) := by
  cases admin with
  | false => exact iff_of_true hc.primaryApart fun h => Bool.noConfusion h
  | true =>
    rw [Strategy.addressed, if_pos rfl, List.pairwise_map]
    simp [Bool.eq_false_iff, Endpoint.onAdminPort, Endpoint.of]

/-- **When the same place is never offered twice.**  A strategy that works with nodes makes a source of
    the nodes that were read from texts, and that source may be asked anything, while its dice and the
    answers to its lookups change.

    * Its candidates always name different places, unless the nodes are addressed on their admin ports,
      two of them share a host and an admin port, and the strategy does not look up their addresses;
    * then a client that tries every candidate once tries no place twice;
    * addresses are found once, even if the answers change from one lookup to the next. -/
theorem offered_once_iff [DomainNames] {shortName : Option String} {primary secondary : List String}
    {c : Configuration} (hnew : new shortName primary secondary = .ok c) {s : Strategy}
    (hs : s ∈ Strategy.ofConfigured) (admin : Bool) (resolver : Resolver) (dice : Dice) :
    let clear := admin = true → s ≠ .loadBalancedIp →
      c.primaryNodes.Pairwise fun a b => a.host = b.host → a.adminPort ≠ b.adminPort
    ∃ source, s.source admin resolver dice c.primaryNodes = .ok source ∧
      ((∀ t, source.Becomes t → ∀ e, (Source.candidates e t).value.Pairwise fun a b =>
        a.same b = false) ↔ clear) ∧
      (clear → ∀ t, source.Becomes t → ∀ {τ : Type} (T : Transport τ) (client : Client)
        (r : Request) (context : Context) (w : World Provider τ), client.policy = .eachOnce →
          w.roster = .leaf t →
            ((client.execute Provider.roster T r context w).trail.map (·.candidate)).Pairwise
              fun a b => a.same b = false) ∧
      ∀ asked d, (permute d (Resolver.resolveInTurn asked).1).1.Pairwise fun a b =>
        a.same b = false := by
  intro clear
  have htakes : s ≠ .dynamicRandomIp ∧ s ≠ .empty := by
    have hall : ∀ s ∈ Strategy.ofConfigured, s ≠ .dynamicRandomIp ∧ s ≠ .empty := by decide
    exact hall s hs
  have hsource : s.source admin resolver dice c.primaryNodes = .ok
      (s.sourceOfNodes resolver dice (Strategy.addressed admin c.primaryNodes)) :=
    Strategy.source_of_takesNodes htakes.1
  have hiff := Source.apart_iff (Strategy.source_eq_ok_iff.mp hsource) htakes.1
  rw [apart_addressed_iff (wellFormed_new hnew)] at hiff
  have hclear : _ ↔ clear := hiff.trans
    ⟨fun h hadmin hnames => h htakes.2 hnames hadmin, fun h _ hnames hadmin => h hadmin hnames⟩
  refine ⟨_, hsource, hclear, ?_, ?_⟩
  · intro hyes t hbecomes τ T client r context w hpolicy hroster
    obtain ⟨e, hsublist⟩ := client.execute_onePass Provider.roster T hpolicy r context w
    rw [hroster] at hsublist
    exact (hclear.mpr hyes t hbecomes e).sublist hsublist
  · intro asked d
    exact (Source.apart_perm (permute_perm d _)).mpr (Resolver.resolveInTurn_merged asked).apart

/-- Nodes on two hosts may share an admin port. -/
theorem offered_once : ∃ c source,
    new (some "test") ["a:80:9000", "b:80:9000"] [] = .ok c ∧
      Strategy.simpleFailover ∈ Strategy.ofConfigured ∧
      Strategy.simpleFailover.source true .literals .zeros c.primaryNodes = .ok source ∧
      ∀ t, source.Becomes t → ∀ e, (Source.candidates e t).value.Pairwise fun a b =>
        a.same b = false := by
  have hnew : new (some "test") ["a:80:9000", "b:80:9000"] [] =
      .ok (ofNodes (some "test") .http
        [⟨"a", some 80, some 9000⟩, ⟨"b", some 80, some 9000⟩] []) := rfl
  have hs : Strategy.simpleFailover ∈ Strategy.ofConfigured := by decide
  obtain ⟨source, hsource, hiff, -, -⟩ := offered_once_iff hnew hs true .literals .zeros
  refine ⟨_, source, hnew, hs, hsource, hiff.mpr fun _ _ => ?_⟩
  decide

/-- On one host they are the same place: it is offered twice, and tried twice. -/
theorem offered_twice :
    let a : Endpoint := .of "a" (some 9000)
    let r : Request := { Rehearsal.request "GET" with
      url := ⟨"http", some ⟨"", none, some (.name "a"), some 9000⟩, false, "/", none, none⟩ }
    let w : World Provider Script := ⟨.leaf (.fixed [a, a]),
      ⟨[("a:9000", [.ofStatus 503 [], .ofStatus 503 []])], []⟩, 0, .zero⟩
    ∃ c, new (some "test") ["a:80:9000", "a:81:9000"] [] = .ok c ∧
      Strategy.simpleFailover.source true .literals .zeros c.primaryNodes = .ok (.fixed [a, a]) ∧
      ¬ (Source.candidates a (.fixed [a, a])).value.Pairwise (fun a b => a.same b = false) ∧
      Rehearsal.client.policy = .eachOnce ∧
      (Rehearsal.client.execute Provider.roster Script.transport r .empty w).trail.map
        (·.candidate) = [a, a] := by
  intro a r w
  refine ⟨_, rfl, rfl, by decide, rfl, by decide +kernel⟩

end Configuration

end Failover
