import Mathlib.Data.List.Induction
import Failover.Builder
import Failover.Pattern.Reader
import Failover.Proofs.Url.Authority
/-!
# Which call decides

What a builder holds after any calls, read off the list of calls.

* `Call.last?`, `Call.first?` : what the last and the first call say that say something of a matter;
* `Builder.Reflects` : nodes, strategy and repetition are those of the last call that says something of
  them, and so is the policy if a call names one; otherwise it is that of the first configuration;
* `Builder.reflects_ofCalls` : so it is after all calls;
* `Builder.Made` : what the parts of a built client come from.  `Builder.made_of_build`: so it is with
  every client that is built;
* `Builder.policy_of_last_iff` : when the client has the policy that was asked for last.
-/

set_option autoImplicit false

namespace Failover

namespace Call

/-- Whether the call forgets all calls before it. -/
def startsAnew : Call → Bool
  | .anewForTesting _ _ => true
  | _ => false

/-- The configuration that the call passes on. -/
def configuration? : Call → Option Configuration
  | .configured c => some c
  | .anewForTesting host port => some (.forTesting host port)
  | _ => none

/-- The policy that the call names. -/
def policy? : Call → Option Policy
  | .policy p => some p
  | _ => none

/-- The nodes that the call sets, by themselves or with a configuration. -/
def nodes? : Call → Option (List Endpoint × List Endpoint)
  | .nodes first other => some (first, other)
  | c => c.configuration?.map fun d => (d.primaryNodes, d.secondaryNodes)

/-- The strategy that the call sets. -/
def strategy? : Call → Option Strategy
  | .strategy s => some s
  | c => c.configuration?.map (·.strategy)

/-- What the call says about repeating POST and PATCH. -/
def retrying? : Call → Option Bool
  | .retrying b => some b
  | c => c.configuration?.map (·.retryNonIdempotent)

variable {α : Type} (say : Call → Option α) (calls : List Call) (c : Call)

/-- What the last call says that says something. -/
def last? : Option α := (calls.filterMap say).getLast?

/-- What the first call says that says something. -/
def first? : Option α := (calls.filterMap say).head?

theorem last?_append : last? say (calls ++ [c]) = (say c).or (last? say calls) := by
  unfold last?
  cases hc : say c <;> simp [List.filterMap_append, hc]

theorem first?_append : first? say (calls ++ [c]) = (first? say calls).or (say c) := by
  unfold first?
  cases hc : say c <;> simp [List.filterMap_append, hc]

/-- There is a first word on a matter if there is a last one. -/
theorem first?_eq_none_iff : first? say calls = none ↔ last? say calls = none := by
  rw [first?, last?, List.head?_eq_none_iff, List.getLast?_eq_none_iff]

/-- The policy that was asked for last: the last that a call names, or else that of the last
    configuration. -/
def lastPolicy (calls : List Call) : Policy :=
  ((last? policy? calls).or ((last? configuration? calls).map (·.continuation.policy))).getD .eachOnce

end Call

namespace Builder

open Call

/-- What the builder holds of nodes, strategy, repetition and policy comes from the calls. -/
structure Reflects (b : Builder) (calls : List Call) : Prop where
  nodes : (b.primaryNodes, b.secondaryNodes) = (last? nodes? calls).getD ([], [])
  strategy : b.strategy = (last? strategy? calls).getD .loadBalanced
  retrying : b.retryNonIdempotent = (last? retrying? calls).getD false
  policy : b.policy =
    (last? policy? calls).or ((first? configuration? calls).map (·.continuation.policy))

theorem reflects_empty : empty.Reflects [] := ⟨rfl, rfl, rfl, rfl⟩

theorem reflects_anew (b : Builder) (host : String) (port : UInt16) :
    (b.call (.anewForTesting host port)).Reflects [.anewForTesting host port] :=
  ⟨rfl, rfl, rfl, rfl⟩

/-- What is held is the last word, if each call that says something has it. -/
theorem held_append {α : Type} {held held' start : α} {say : Call → Option α} {calls : List Call}
    {c : Call} (h : held = (last? say calls).getD start) (hcall : held' = (say c).getD held) :
    held' = (last? say (calls ++ [c])).getD start := by
  rw [hcall, h, last?_append]
  cases say c <;> rfl

/-- One call more. -/
theorem Reflects.call {b : Builder} {calls : List Call} (h : b.Reflects calls) {c : Call}
    (hc : c.startsAnew = false) : (b.call c).Reflects (calls ++ [c]) where
  nodes := by
    refine held_append h.nodes ?_
    cases c with
    | anewForTesting => cases hc
    | _ => rfl
  strategy := by
    refine held_append h.strategy ?_
    cases c with
    | anewForTesting => cases hc
    | _ => rfl
  retrying := by
    refine held_append h.retrying ?_
    cases c with
    | anewForTesting => cases hc
    | _ => rfl
  policy := by
    rw [last?_append, first?_append]
    cases c with
    | anewForTesting => cases hc
    | policy p => rfl
    | configured d =>
      show some (b.policy.getD d.continuation.policy) = _
      rw [h.policy]
      cases last? policy? calls <;> cases first? configuration? calls <;> rfl
    | _ =>
      show b.policy = ((last? policy? calls).or (((first? configuration? calls).or none).map _))
      rw [Option.or_none]
      exact h.policy

/-- **What the builder holds after all calls.** -/
theorem reflects_ofCalls {calls : List Call} (h : ∀ c ∈ calls.tail, c.startsAnew = false) :
    (ofCalls calls).Reflects calls := by
  -- From the right end: a call that forgets those before it can only be the one that nothing is before.
  induction calls using List.reverseRecOn with
  | nil => exact reflects_empty
  | append_singleton calls c ih =>
    rw [ofCalls_append]
    cases calls with
    | nil =>
      cases hc : c.startsAnew with
      | false => exact reflects_empty.call hc
      | true =>
        cases c with
        | anewForTesting host port => exact reflects_anew _ host port
        | _ => cases hc
    | cons c' calls =>
      have hlast : c ∈ (c' :: calls ++ [c]).tail := List.mem_append_right calls (List.mem_singleton.mpr rfl)
      exact (ih fun d hd => h d (List.mem_append_left [c] hd)).call (h c hlast)

variable {library : PatternLibrary} {dice : Dice}

/-- The client and its provider are made of what the builder holds. -/
structure Made (b : Builder) (library : PatternLibrary) (dice : Dice) (client : Client)
    (primary : Provider) (secondary : Option Provider) : Prop where
  name : b.name = .ok client.shortName
  primary : b.primaryProvider dice.halves.1 client.shortName = .ok primary
  secondary : b.secondaryProvider dice.halves.2 = .ok secondary
  header : b.header = .ok client.transactionHeader
  filter : HeaderFilter.withExtra library b.hidden = .ok client.filter
  protocol : client.protocol = b.clientProtocol
  policy : client.policy = b.policy.getD .eachOnce
  retrying : client.retryNonIdempotent = b.retryNonIdempotent

theorem made_of_build {b : Builder} {client : Client} {provider : Provider}
    (h : b.build library dice = .ok (client, provider)) :
    ∃ primary secondary, b.Made library dice client primary secondary ∧
      provider = primary.followedBy secondary := by
  obtain ⟨name, hname, h⟩ := ok_of_bind h
  obtain ⟨primary, hprimary, h⟩ := ok_of_bind h
  obtain ⟨secondary, hsecondary, h⟩ := ok_of_bind h
  obtain ⟨header, hheader, h⟩ := ok_of_bind h
  obtain ⟨filter, hfilter, h⟩ := ok_of_bind h
  cases h
  exact ⟨primary, secondary, ⟨hname, hprimary, hsecondary, hheader, hfilter, rfl, rfl, rfl⟩, rfl⟩

/-- A builder whose build does not fail gives a client and its provider. -/
theorem build_ok {b : Builder} (h : (b.build library dice).isOk = true) :
    ∃ client provider, b.build library dice = .ok (client, provider) := by
  obtain ⟨⟨client, provider⟩, hbuild⟩ := ok_of_isOk h
  exact ⟨client, provider, hbuild⟩

/-- **When the client has the policy that was asked for last.**  If a call names a policy, the client has
    the last one named.  If none does, it has that of the first configuration, and this is that of the
    last one only if the two say the same.  Repetition, strategy and nodes are those of the last call
    that says something of them. -/
theorem policy_of_last_iff {calls : List Call} (hstart : ∀ c ∈ calls.tail, c.startsAnew = false)
    {client : Client} {provider : Provider}
    (hbuild : (ofCalls calls).build library dice = .ok (client, provider)) :
    (client.policy = lastPolicy calls ↔
        last? policy? calls ≠ none ∨
          (first? configuration? calls).map (·.continuation.policy) =
            (last? configuration? calls).map (·.continuation.policy)) ∧
      client.policy = ((last? policy? calls).or
        ((first? configuration? calls).map (·.continuation.policy))).getD .eachOnce ∧
      client.retryNonIdempotent = (last? retrying? calls).getD false ∧
      (ofCalls calls).strategy = (last? strategy? calls).getD .loadBalanced ∧
      ((ofCalls calls).primaryNodes, (ofCalls calls).secondaryNodes) =
        (last? nodes? calls).getD ([], []) := by
  have hreflects := reflects_ofCalls hstart
  obtain ⟨primary, secondary, hmade, -⟩ := made_of_build hbuild
  have hpolicy := hmade.policy
  have hretrying := hmade.retrying
  rw [hreflects.policy] at hpolicy
  rw [hreflects.retrying] at hretrying
  refine ⟨?_, hpolicy, hretrying, hreflects.strategy, hreflects.nodes⟩
  rw [hpolicy, lastPolicy]
  cases hnamed : last? policy? calls with
  | some p => exact iff_of_true rfl (.inl (Option.some_ne_none p))
  | none =>
    rw [Option.none_or, Option.none_or]
    cases hfirst : first? configuration? calls with
    | none =>
      rw [(first?_eq_none_iff configuration? calls).mp hfirst]
      exact iff_of_true rfl (.inr rfl)
    | some c =>
      -- Then there is a last one too, and two policies that are there are compared.
      cases hlast : last? configuration? calls with
      | none =>
        rw [(first?_eq_none_iff configuration? calls).mpr hlast] at hfirst
        cases hfirst
      | some d => simp

/-- Two configurations, the first with a budget of attempts. -/
def twoConfigurations : List Call :=
  [.named "test",
    .configured { Configuration.ofNodes none .http [⟨"a", some 8080, some 8080⟩] [] with
      continuation := .backoff 3 0 },
    .configured (.ofNodes none .http [⟨"b", some 8080, some 8080⟩] [])]

/-- A policy that is named stays, whatever configuration comes behind it. -/
theorem policy_of_last_named : ∃ client provider,
    (ofCalls (.policy (.backoff .standard) :: twoConfigurations)).build Pattern.library .zeros =
        .ok (client, provider) ∧
      (∀ c ∈ twoConfigurations, c.startsAnew = false) ∧
      client.policy = .backoff .standard ∧
      client.policy = lastPolicy (.policy (.backoff .standard) :: twoConfigurations) ∧
      (ofCalls (.policy (.backoff .standard) :: twoConfigurations)).primaryNodes =
        [⟨"b", some 8080, some 8080⟩] := by
  obtain ⟨client, provider, hbuild⟩ :=
    @build_ok Pattern.library .zeros (ofCalls (.policy (.backoff .standard) :: twoConfigurations))
      (by decide +kernel)
  have hstart : ∀ c ∈ twoConfigurations, c.startsAnew = false := by decide
  obtain ⟨hiff, hpolicy, -, -, hnodes⟩ :=
    @policy_of_last_iff Pattern.library .zeros (.policy (.backoff .standard) :: twoConfigurations) hstart
      client provider hbuild
  exact ⟨client, provider, hbuild, hstart, hpolicy, hiff.mpr (.inl (Option.some_ne_none _)),
    congrArg Prod.fst hnodes⟩

/-- The client goes through the nodes of the second configuration by the policy of the first. -/
theorem first_configuration_decides : ∃ client provider,
    (ofCalls twoConfigurations).build Pattern.library .zeros = .ok (client, provider) ∧
      client.policy = .backoff ⟨3, .zero⟩ ∧ client.policy ≠ lastPolicy twoConfigurations ∧
      (ofCalls twoConfigurations).primaryNodes = [⟨"b", some 8080, some 8080⟩] := by
  obtain ⟨client, provider, hbuild⟩ :=
    @build_ok Pattern.library .zeros (ofCalls twoConfigurations) (by decide +kernel)
  obtain ⟨primary, secondary, hmade, -⟩ := made_of_build hbuild
  have hpolicy : client.policy = .backoff ⟨3, .zero⟩ := hmade.policy.trans (by decide +kernel)
  have hlast : lastPolicy twoConfigurations = .eachOnce := rfl
  refine ⟨client, provider, hbuild, hpolicy, ?_, rfl⟩
  rw [hpolicy, hlast]
  intro h
  cases h

end Builder

end Failover
