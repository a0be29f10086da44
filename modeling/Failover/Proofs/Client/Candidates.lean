import Failover.Proofs.Builder.Acceptance
import Failover.Proofs.Client.Feedback
import Failover.Proofs.Client.Traffic
import Failover.Proofs.Provider.Lookups
/-!
# Clients that always have a candidate

A client that looks hosts up has somewhere to send to, whatever its lookups answer.

* `Roster.AlwaysOffers` : in states out of which nothing leads, there is a candidate for any endpoint;
* `Traffic.Provided` : what this makes of the requests of a client.  `Traffic.move_provided`: every move
  keeps it;
* `Traffic.runAnswering` : moves one after another, between which lookups may change their answers;
* `Builder.LooksUp` : what is asked of a client that looks hosts up.  `Builder.looksUp_of_build`: so
  does its provider;
* `Client.resolution_fails_open` : such a client always has a candidate, and no request that tries each
  candidate once ends without an attempt.
-/

set_option autoImplicit false

namespace Failover

variable {σ τ : Type}

/-- In the states `I`, out of which nothing leads, there is a candidate for any endpoint. -/
structure Roster.AlwaysOffers (R : Roster σ) (I : σ → Prop) : Prop extends R.Keeps I where
  offered : ∀ {st : σ} (e : Endpoint), I st → (R.candidates e st).value ≠ []

/-- **A provider with a source that looks hosts up always offers something.** -/
theorem Provider.roster_alwaysOffers : roster.AlwaysOffers LooksUp where
  toKeeps := roster_keeps_looksUp
  offered := fun e h => h.candidates_ne_nil e

/-! ## Requests of a client -/

/-- An attempt has left an answer or a fault for the request to end with. -/
def Progress.Tried (p : Progress σ τ) : Prop := p.response.isSome = true ∨ p.fault.isSome = true

theorem Progress.Tried.conclusion_ne {p : Progress σ τ} (h : p.Tried) (f : Failure) :
    p.conclusion f ≠ .error .noAttempts := by
  unfold conclusion
  split
  · nofun
  · nofun
  · rename_i hresponse hfault
    rcases h with h | h
    · rw [hresponse] at h
      cases h
    · rw [hfault] at h
      cases h

theorem Request.endpoint_error {r : Request} {f : Failure} (h : r.endpoint = .error f) :
    ∃ cause, f = .invalidRequest cause := by
  unfold endpoint Endpoint.ofUrl at h
  split at h
  · cases h
    exact ⟨_, rfl⟩
  · cases h

/-- A request is refused for its endpoint, not for want of attempts. -/
theorem Client.refused_ne [DomainNames] {R : Roster σ} {T : Transport τ} {c : Client} {r : Request}
    {context : Context} {w : World σ τ} {f : Failure} (hplain : r.isSecure = false)
    (hnot : ¬ r.Counts R w) (h : c.execute R T r context w = .refused f w) : f ≠ .noAttempts := by
  unfold execute at h
  rw [hplain, if_neg Bool.false_ne_true] at h
  cases he : r.endpoint with
  | error g =>
    obtain ⟨cause, rfl⟩ := Request.endpoint_error he
    rw [he] at h
    cases congrArg Execution.outcome h
    nofun
  | ok supplied =>
    have hsup : ¬ R.supports w.roster supplied = true := fun hsup =>
      hnot ⟨hplain, supplied, he, hsup⟩
    rw [he] at h
    simp only [if_neg hsup] at h
    cases congrArg Execution.outcome h
    nofun

/-- A request that tries each candidate once has one ahead of it or something to end with, unless there
    is an answer that nothing has followed from yet. -/
def Pending.Provided (call : Pending σ τ) : Prop :=
  ∃ q, call.progress.session = .pass q ∧
    (call.awaiting = none → q.waiting = [] → call.progress.Tried)

namespace Traffic

/-- There are candidates now, and for requests that try each of them once there were when they came. -/
structure Provided (I : σ → Prop) (c : Client) (t : Traffic σ τ) : Prop where
  roster : I t.world.roster
  pending : c.policy = .eachOnce → ∀ call ∈ t.pending, call.Provided
  finished : c.policy = .eachOnce → ∀ f ∈ t.finished, f.run.outcome ≠ .error .noAttempts

variable {R : Roster σ} {I : σ → Prop} (hR : R.AlwaysOffers I) {T : Transport τ} {c : Client}
  {t : Traffic σ τ} {i : Nat} {call : Pending σ τ} {p : Progress σ τ}

theorem Provided.pass (h : t.Provided I c) (hi : t.pending[i]? = some call)
    (hc : c.policy = .eachOnce) : ∃ q, call.progress.session = .pass q :=
  (h.pending hc call (List.mem_of_getElem? hi)).imp fun _ hq => hq.1

/-- One more request has ended. -/
theorem Provided.ended (h : t.Provided I c) {w : World σ τ} {calls : List (Pending σ τ)}
    {f : Finished σ τ} (hroster : I w.roster) (hcalls : ∀ call ∈ calls, call ∈ t.pending)
    (hf : c.policy = .eachOnce → f.run.outcome ≠ .error .noAttempts) :
    Provided I c ⟨w, calls, t.finished ++ [f]⟩ where
  roster := hroster
  pending := fun hc call hcall => h.pending hc call (hcalls call hcall)
  finished := by
    intro hc g hg
    rcases List.mem_append.mp hg with hg | hg
    · exact h.finished hc g hg
    · rw [List.mem_singleton.mp hg]
      exact hf hc

theorem Provided.finish (h : t.Provided I c) {o : Except Failure Response} (hroster : I p.roster)
    (ho : c.policy = .eachOnce → o ≠ .error .noAttempts) : (t.finish i call o p).Provided I c :=
  h.ended hroster (fun _ hcall => List.mem_of_mem_eraseIdx hcall) ho

theorem Provided.resume (h : t.Provided I c) {awaiting : Option Attempt} (hroster : I p.roster)
    (hcall : c.policy = .eachOnce →
      Pending.Provided { call with awaiting := awaiting, progress := p }) :
    (t.resume i call awaiting p).Provided I c where
  roster := hroster
  pending := by
    intro hc other hother
    change other ∈ t.pending.set i _ at hother
    rcases List.mem_or_eq_of_mem_set hother with hother | rfl
    · exact h.pending hc other hother
    · exact hcall hc
  finished := h.finished

/-- A request that may not continue has something to end with. -/
theorem Provided.spent (h : t.Provided I c) (hi : t.pending[i]? = some call)
    (hawaiting : call.awaiting = none)
    (hspent : (call.progress.within t.world).session.mayContinue call.job.context.cancellation
      (call.progress.within t.world).now = false) :
    Provided I c (t.finish i call ((call.progress.within t.world).conclusion .noAttempts)
      (call.progress.within t.world)) := by
  refine h.finish h.roster fun hc => ?_
  obtain ⟨pass, hpass, htried⟩ := h.pending hc call (List.mem_of_getElem? hi)
  change call.progress.session.mayContinue _ _ = false at hspent
  rw [hpass] at hspent
  have hnil : pass.waiting = [] := by simpa [Session.mayContinue] using hspent
  exact (htried hawaiting hnil).conclusion_ne .noAttempts

include hR

theorem provided_of_begin {j : Job} (hj : j.client.policy = .eachOnce) {w : World σ τ}
    (hw : I w.roster) : Pending.Provided ⟨j, w, none, j.begin R w⟩ := by
  refine ⟨⟨(R.candidates j.supplied w.roster).value, 0⟩, ?_, ?_⟩
  · show (Session.start R j.client.policy j.supplied w.roster).value = _
    rw [hj]
    rfl
  · exact fun _ hnil => absurd hnil (hR.offered j.supplied hw)

/-- A request that comes finds candidates. -/
theorem Provided.called [DomainNames] (h : t.Provided I c) (r : Request) (context : Context) :
    (t.call R T c r context).Provided I c := by
  obtain ⟨-, hcall⟩ | ⟨hplain, hnot, f, hrefused, hcall⟩ | ⟨supplied, -, -, hcall⟩ :=
    call_cases R T c r context t
  · rw [hcall]
    refine h.ended h.roster (fun _ hother => hother) fun _ => ?_
    rw [Client.sendDirectly_outcome]
    cases (T.send r t.world.transport).outcome <;> nofun
  · rw [hcall]
    refine h.ended h.roster (fun _ hother => hother) fun _ hnone => ?_
    exact Client.refused_ne hplain hnot hrefused (Except.error.inj hnone)
  · rw [hcall]
    refine ⟨hR.candidates _ h.roster, ?_, h.finished⟩
    intro hc other hother
    rcases List.mem_append.mp hother with hother | hother
    · exact h.pending hc other hother
    · rw [List.mem_singleton.mp hother]
      exact provided_of_begin hR hc h.roster

/-- What follows from an answer leaves a request something to end with. -/
theorem Provided.settle (h : t.Provided I c) (hi : t.pending[i]? = some call) (a : Attempt) :
    Provided I c (t.settled i call (call.job.settle R a (call.progress.within t.world))) := by
  have hreported := hR.report a.candidate h.roster
  have hs := Job.settles R call.job a (call.progress.within t.world)
  generalize call.job.settle R a (call.progress.within t.world) = turn at hs ⊢
  cases hs with
  | answered => exact h.finish h.roster fun _ hnone => by cases hnone
  | broken => exact h.finish h.roster fun _ hnone => by cases hnone
  | doubtful =>
    rw [Job.failedAt_eq]
    exact h.finish hreported fun _ hnone => by cases hnone
  | unwell | unreached =>
    rw [Job.failedAt_eq]
    refine h.resume hreported fun hc => ?_
    obtain ⟨q, hq⟩ := h.pass hi hc
    exact ⟨q, hq, fun _ _ => by simp [Progress.Tried, Progress.note]⟩

/-- A request that may continue is sent to its next candidate. -/
theorem Provided.dispatch [DomainNames] (h : t.Provided I c) (hi : t.pending[i]? = some call)
    (hmay : (call.progress.within t.world).session.mayContinue call.job.context.cancellation
      (call.progress.within t.world).now = true) :
    Provided I c (t.dispatched i call
      (call.job.dispatch R T (call.progress.within t.world))) := by
  have hasked : I (call.job.asked R (call.progress.within t.world)).state :=
    Session.next_state_keeps (fun e _ => hR.candidates e) _ _ _ h.roster
  have hs := Job.dispatches R T call.job (call.progress.within t.world)
  generalize call.job.dispatch R T (call.progress.within t.world) = d at hs ⊢
  cases hs with
  | unsupplied hnone =>
    refine h.finish hasked fun hc => ?_
    -- A pass that may continue has a host.
    obtain ⟨q, hq⟩ := h.pass hi hc
    have hconsistent : (call.progress.within t.world).session.Consistent := by
      show call.progress.session.Consistent
      rw [hq]
      trivial
    obtain ⟨e, he⟩ := Job.asked_ok (R := R) hconsistent hmay
    cases he.symm.trans hnone
  | unsendable hother => exact h.finish hasked fun _ hnone => hother (Except.error.inj hnone)
  | sent =>
    refine h.resume hasked fun hc => ?_
    obtain ⟨q, hq⟩ := h.pass hi hc
    refine ⟨q.next.2, ?_, fun hawaiting => by cases hawaiting⟩
    show (call.progress.session.next R _ _ _).session = _
    rw [hq]
    rfl

/-- **Every move keeps clients provided with candidates.** -/
theorem move_provided [DomainNames] (h : t.Provided I c) (m : Move) :
    (t.move R T c m).Provided I c := by
  cases m with
  | call r context => exact h.called hR r context
  | clock now => exact ⟨h.roster, h.pending, h.finished⟩
  | proceed i =>
    show (t.proceed R T i).Provided I c
    unfold proceed
    cases hi : t.pending[i]? with
    | none => exact h
    | some call =>
      cases hawaiting : call.awaiting with
      | some a =>
        simp only [hawaiting]
        exact h.settle hR hi a
      | none =>
        simp only [hawaiting]
        split
        · rename_i hmay
          exact h.dispatch hR hi hmay
        · rename_i hspent
          exact h.spent hi hawaiting (Bool.eq_false_iff.mpr hspent)

/-- **So do all of them, one after another.** -/
theorem run_provided [DomainNames] : ∀ (ms : List Move) {t : Traffic σ τ}, t.Provided I c →
    (t.run R T c ms).Provided I c
  | [], _, h => h
  | m :: ms, _, h => run_provided ms (move_provided hR h m)

end Traffic

/-! ## Lookups that change their answers -/

namespace Traffic

/-- The same requests, with these answers to the lookups from now on. -/
def answering (answers : Source → Resolver) (t : Traffic Provider τ) : Traffic Provider τ :=
  { t with world := { t.world with roster := t.world.roster.answering answers } }

/-- Moves one after another, each with its own answers to the lookups. -/
def runAnswering [DomainNames] (T : Transport τ) (c : Client) :
    Traffic Provider τ → List ((Source → Resolver) × Move) → Traffic Provider τ
  | t, [] => t
  | t, (answers, m) :: rest =>
    runAnswering T c ((t.answering answers).move Provider.roster T c m) rest

/-- Whatever is answered in between, they do. -/
theorem runAnswering_provided [DomainNames] (T : Transport τ) (c : Client) :
    ∀ (happened : List ((Source → Resolver) × Move)) {t : Traffic Provider τ},
      t.Provided Provider.LooksUp c → (t.runAnswering T c happened).Provided Provider.LooksUp c
  | [], _, h => h
  | (answers, m) :: rest, _, h =>
    have hanswered : (Traffic.answering answers _).Provided Provider.LooksUp c :=
      ⟨h.roster.answering answers, h.pending, h.finished⟩
    runAnswering_provided T c rest (move_provided Provider.roster_alwaysOffers hanswered m)

end Traffic

/-! ## Clients that look hosts up -/

/-- The source of a strategy that looks hosts up does so, if there are nodes for a strategy that works
    with nodes. -/
theorem Strategy.Makes.looksUp {s : Strategy} (hs : s = .loadBalancedIp ∨ s = .dynamicRandomIp)
    {r : Resolver} {dice : Dice} {nodes : List Endpoint} {source : Source}
    (hnodes : s = .loadBalancedIp → nodes ≠ []) (h : Makes r dice s nodes source) : source.LooksUp := by
  cases h with
  | unsupplied hnot => exact absurd rfl (hnodes (hs.resolve_right hnot))
  | loadBalancedIp supplied => exact supplied
  | dynamicRandomIp => trivial
  | empty | simpleFailover | loadBalanced => rcases hs with hs | hs <;> cases hs

namespace Builder

/-- A client is asked for that looks hosts up: by its strategy, with nodes or without, or by one of its
    providers. -/
inductive LooksUp (b : Builder) : Prop where
  | strategy (h : b.strategy = .loadBalancedIp ∨ b.strategy = .dynamicRandomIp)
    (used : b.primary = none ∨ b.secondary = none ∧ b.secondaryNodes ≠ [])
  | primary {p : Provider} (h : b.primary = some p) (looksUp : p.LooksUp)
  | secondary {p : Provider} (h : b.secondary = some p) (looksUp : p.LooksUp)

variable {b : Builder} {dice : Dice} {p : Provider}

theorem Supplies.looksUp (hs : b.strategy = .loadBalancedIp ∨ b.strategy = .dynamicRandomIp)
    {nodes : List Endpoint} (hnodes : b.strategy = .loadBalancedIp → nodes ≠ [])
    (h : b.Supplies dice none nodes p) : p.LooksUp := by
  cases h with
  | given h => cases h
  | made _ hmade =>
    have hlooks := hmade.looksUp hs fun hip hnil =>
      hnodes hip (Strategy.addressed_eq_nil_iff.mp hnil)
    exact ⟨_, List.mem_singleton_self _, hlooks⟩

/-- A first provider was made of nodes, if the strategy works with nodes. -/
theorem primaryNodes_ne_nil (hnone : b.primary = none) (hs : b.strategy = .loadBalancedIp)
    {name : String} (h : b.primaryProvider dice name = .ok p) : b.primaryNodes ≠ [] := by
  rcases primaryProvider_ok_iff.mp ⟨p, h⟩ with hsome | ⟨-, hother⟩ | ⟨hnodes, -⟩
  · exact absurd hnone hsome
  · rw [hs] at hother
    rcases hother with hother | hother <;> cases hother
  · exact hnodes

end Builder

/-- One provider that looks hosts up is enough. -/
theorem Provider.looksUp_followedBy {first : Provider} {other : Option Provider}
    (h : first.LooksUp ∨ ∃ p, other = some p ∧ p.LooksUp) : (first.followedBy other).LooksUp := by
  cases other with
  | none => exact h.resolve_right fun ⟨p, hp, _⟩ => by cases hp
  | some p =>
    have hleaves : (first.followedBy (some p)).leaves = first.leaves ++ p.leaves := by
      simp [followedBy, Tree.leaves, Tree.leavesOfAll]
    rcases h with ⟨s, hs, hlooks⟩ | ⟨p', hp, s, hs, hlooks⟩
    · exact ⟨s, by rw [hleaves]; exact List.mem_append_left _ hs, hlooks⟩
    · cases hp
      exact ⟨s, by rw [hleaves]; exact List.mem_append_right _ hs, hlooks⟩

/-- **The provider of a client that was asked to look hosts up does so.** -/
theorem Builder.looksUp_of_build {b : Builder} (hb : b.LooksUp) {library : PatternLibrary}
    {dice : Dice} {client : Client} {provider : Provider}
    (hbuild : b.build library dice = .ok (client, provider)) : provider.LooksUp := by
  obtain ⟨primary, secondary, hmade, rfl⟩ := made_of_build hbuild
  have hprimary := supplies_of_primaryProvider hmade.primary
  have hsecondary := follows_of_secondaryProvider hmade.secondary
  apply Provider.looksUp_followedBy
  cases hb with
  | strategy hs used =>
    rcases used with hnone | ⟨hnone, hnodes⟩
    · rw [hnone] at hprimary
      exact Or.inl (hprimary.looksUp hs fun hip => primaryNodes_ne_nil hnone hip hmade.primary)
    · cases hsecondary with
      | none _ hnil => exact absurd hnil hnodes
      | some _ supplied =>
        rw [hnone] at supplied
        exact Or.inr ⟨_, rfl, supplied.looksUp hs fun _ => hnodes⟩
  | primary hgiven hlooks =>
    rw [hgiven] at hprimary
    rw [hprimary.eq_given]
    exact Or.inl hlooks
  | secondary hgiven hlooks =>
    cases hsecondary with
    | none hnone => cases hgiven.symm.trans hnone
    | some _ supplied =>
      rw [hgiven] at supplied
      rw [supplied.eq_given]
      exact Or.inr ⟨_, rfl, hlooks⟩

/-! ## A rehearsal -/

namespace Rehearsal

/-- What is asked of a client that looks up the addresses of one node. -/
def lookups : List Call := [.named "test", .nodes [.of "service" none] [], .strategy .loadBalancedIp]

/-- That client. -/
def addressed : Client :=
  ⟨"test", .http, .eachOnce, false, none, usualFilter⟩

/-- Its provider. -/
def addresses : Provider :=
  .leaf (.shuffledAddresses [.of "service" none] .literals Dice.zeros.halves.1)

theorem build_lookups :
    (Builder.ofCalls lookups).build Pattern.library .zeros = .ok (addressed, addresses) := by
  have hname : (Builder.ofCalls lookups).name = .ok "test" := rfl
  have hprimary : (Builder.ofCalls lookups).primaryProvider Dice.zeros.halves.1 "test" = .ok addresses :=
    rfl
  have hsecondary : (Builder.ofCalls lookups).secondaryProvider Dice.zeros.halves.2 = .ok none := rfl
  have hheader : (Builder.ofCalls lookups).header = .ok none := rfl
  exact (Builder.build_of_parts hname hprimary hsecondary hheader
    withExtra_nil).trans rfl

end Rehearsal

/-! ## What is always there -/

namespace Client

/-- A request that meets no other has an attempt too. -/
theorem execute_provided [DomainNames] {R : Roster σ} {I : σ → Prop} (hR : R.AlwaysOffers I)
    (T : Transport τ) {c : Client} (hc : c.policy = .eachOnce) (r : Request) (context : Context)
    {w : World σ τ} (hw : I w.roster) :
    (c.execute R T r context w).outcome ≠ .error .noAttempts := by
  obtain ⟨k, hk⟩ := traffic_alone R T c r context (t := ⟨w, [], []⟩) rfl
  have hidle : Traffic.Provided I c (⟨w, [], []⟩ : Traffic σ τ) := ⟨hw, by simp, by simp⟩
  have hprovided := Traffic.run_provided hR (T := T)
    (.call r context :: .replicate k (.proceed 0)) hidle
  rw [hk] at hprovided
  exact hprovided.finished hc _ (List.mem_singleton_self _)

/-- **Lookups that fail leave something to try.**  Endpoints resolve to all that they stand for, each
    place once: to the addresses of their hosts, and to themselves where there are none.  A client
    that looks hosts up, by its strategy or by its providers, therefore has a candidate for any
    endpoint at any time, in whatever order its requests come and get ahead and whatever each lookup
    answers.  Unless it was given another policy, no request of it ends for want of attempts. -/
theorem resolution_fails_open [DomainNames] :
    (∀ asked, Resolver.Merged asked (Resolver.resolveInTurn asked).1) ∧
    (∀ r es, Resolver.Merged (Resolver.turns r es) (Resolver.resolveAll r es).1) ∧
    ∀ (library : PatternLibrary) (dice : Dice) (calls : List Call) (client : Client)
      (provider : Provider), (Builder.ofCalls calls).build library dice = .ok (client, provider) →
      (Builder.ofCalls calls).LooksUp →
        ∀ {τ : Type} (T : Transport τ) (transport : τ) (now : Nat)
          (happened : List ((Source → Resolver) × Move)) (answers : Source → Resolver),
          let t := ((Traffic.fresh provider transport now).runAnswering T client happened).answering
            answers
          (∀ supplied, (Provider.roster.candidates supplied t.world.roster).value ≠ []) ∧
          ((Builder.ofCalls calls).policy.getD .eachOnce = .eachOnce →
            (∀ f ∈ t.finished, f.run.outcome ≠ .error .noAttempts) ∧
              ∀ r context, (client.execute Provider.roster T r context t.world).outcome ≠
                .error .noAttempts) := by
  refine ⟨Resolver.resolveInTurn_merged, Resolver.resolveAll_merged, ?_⟩
  intro library dice calls client provider hbuild hlooks τ T transport now happened answers t
  have hfresh : (Traffic.fresh provider transport now).Provided Provider.LooksUp client :=
    ⟨Builder.looksUp_of_build hlooks hbuild, by simp [Traffic.fresh], by simp [Traffic.fresh]⟩
  have hrun := Traffic.runAnswering_provided T client happened hfresh
  have hroster : t.world.roster.LooksUp := hrun.roster.answering answers
  refine ⟨fun supplied => hroster.candidates_ne_nil supplied, fun hpolicy => ?_⟩
  obtain ⟨primary, secondary, hmade, -⟩ := Builder.made_of_build hbuild
  have hc : client.policy = .eachOnce := hmade.policy.trans hpolicy
  exact ⟨hrun.finished hc, fun r context =>
    execute_provided Provider.roster_alwaysOffers T hc r context hroster⟩

/-- One request to that client, whose lookup fails at first; later ones find nothing. -/
theorem rehearsed_lookups :
    let failing : Source → Resolver := fun _ => .steady fun _ => .error ⟨.timedOut, "no answer"⟩
    let finding : Source → Resolver := fun _ => .steady fun _ => .ok []
    let t := ((Traffic.fresh Rehearsal.addresses Script.empty 0).runAnswering Script.transport
      Rehearsal.addressed
      [(failing, .call (Rehearsal.request "GET") .empty), (finding, .proceed 0),
        (finding, .proceed 0), (finding, .proceed 0)]).answering failing
    (Builder.ofCalls Rehearsal.lookups).build Pattern.library .zeros =
        .ok (Rehearsal.addressed, Rehearsal.addresses) ∧
      (Builder.ofCalls Rehearsal.lookups).LooksUp ∧ t.finished.length = 1 ∧
      (∀ f ∈ t.finished, f.run.outcome ≠ .error .noAttempts) ∧
      (Provider.roster.candidates (.of "service" none) t.world.roster).value ≠ [] := by
  intro failing finding t
  have hlooks : (Builder.ofCalls Rehearsal.lookups).LooksUp :=
    .strategy (Or.inl rfl) (Or.inl rfl)
  obtain ⟨-, -, hclients⟩ := resolution_fails_open
  obtain ⟨hoffered, hended⟩ := hclients Pattern.library .zeros Rehearsal.lookups
    Rehearsal.addressed Rehearsal.addresses Rehearsal.build_lookups hlooks Script.transport Script.empty 0
    [(failing, .call (Rehearsal.request "GET") .empty), (finding, .proceed 0),
      (finding, .proceed 0), (finding, .proceed 0)] failing
  exact ⟨Rehearsal.build_lookups, hlooks, by decide +kernel, (hended rfl).1,
    hoffered (.of "service" none)⟩

end Client

end Failover
