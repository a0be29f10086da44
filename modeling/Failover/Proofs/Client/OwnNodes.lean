import Failover.Proofs.Builder.Acceptance
import Failover.Proofs.Configuration.Nodes
import Failover.Proofs.Provider.Steady
/-!
# Requests to a client's own nodes

A client that works with the nodes of a configuration accepts the requests whose URLs name one of
them.  Names are compared as texts: the host of a URL as the URL parser writes it, the host of a node
as the configuration has it.

* `Configuration.Names` : the nodes hold the host on this port;
* `Builder.ServesNodes` : clients that work with these nodes and nothing else.
  `Builder.supports_of_build`: what they support;
* `Client.refuses_iff` : which requests are refused for their endpoint;
* `Client.own_node_unknown_iff` : when the URL of one of its own nodes is refused;
* `Client.own_node_refused` : a node that is.
-/

set_option autoImplicit false

namespace Failover

variable {σ τ : Type}

namespace Configuration

/-- One of the nodes has the host of the endpoint, in the same letters, and its port if it has one. -/
def Names (c : Configuration) (e : Endpoint) : Prop :=
  ∃ n ∈ c.nodes, n.host = e.host ∧ (e.port = none ∨ e.port = n.port)

end Configuration

/-- Nodes with ports list the endpoints that they name. -/
theorem Source.lists_iff {nodes : List Endpoint} (hports : ∀ n ∈ nodes, ∃ p, n.port = some p)
    (e : Endpoint) : Source.lists nodes e = true ↔
      ∃ n ∈ nodes, n.host = e.host ∧ (e.port = none ∨ e.port = n.port) := by
  unfold lists
  rw [List.any_eq_true]
  refine exists_congr fun n => and_congr_right fun hn => ?_
  obtain ⟨p, hp⟩ := hports n hn
  rw [Bool.and_eq_true, beq_iff_eq, hp]
  refine and_congr_right fun _ => ?_
  cases he : e.port with
  | none => simp
  | some q =>
    simp only [beq_iff_eq, reduceCtorEq, false_or, Option.some.injEq]
    exact eq_comm

/-! ## Clients of nodes -/

/-- The strategies that work with configured nodes. -/
def Strategy.ofConfigured : List Strategy := [.simpleFailover, .loadBalanced, .loadBalancedIp]

/-- What the strategy makes of nodes supports what they list. -/
theorem Strategy.Makes.supports {s : Strategy} (hs : s ∈ ofConfigured) {resolver : Resolver}
    {dice : Dice} {nodes : List Endpoint} {source : Source} (h : Makes resolver dice s nodes source)
    (e : Endpoint) : source.supports e = Source.lists nodes e := by
  cases h with
  | unsupplied | simpleFailover | loadBalanced | loadBalancedIp => rfl
  | empty | dynamicRandomIp => exact absurd hs (by decide)

namespace Builder

/-- The client works with the nodes of the configuration, on their own ports, and with nothing else. -/
structure ServesNodes (b : Builder) (c : Configuration) : Prop where
  primaryNodes : b.primaryNodes = c.primaryNodes
  secondaryNodes : b.secondaryNodes = c.secondaryNodes
  primary : b.primary = none
  secondary : b.secondary = none
  ownPorts : b.useAdminPorts = false
  strategy : b.strategy ∈ Strategy.ofConfigured

variable {b : Builder} {library : PatternLibrary} {dice : Dice} {c : Configuration}

/-- So does one that was given a configuration and such a strategy. -/
theorem servesNodes_ofCalls {s : Strategy} (hs : s ∈ Strategy.ofConfigured) :
    (ofCalls [.configured c, .strategy s]).ServesNodes c :=
  ⟨rfl, rfl, rfl, rfl, rfl, hs⟩

/-- Each of the two providers supports what its nodes list. -/
theorem ServesNodes.supports (hb : b.ServesNodes c) {nodes : List Endpoint} {p : Provider}
    (h : b.Supplies dice none nodes p) (e : Endpoint) :
    Provider.roster.supports p e = Source.lists nodes e := by
  cases h with
  | given h => cases h
  | made _ hmade =>
    rw [hb.ownPorts] at hmade
    exact hmade.supports hb.strategy e

/-- **What the built client supports is what the nodes list.** -/
theorem supports_of_build (hb : b.ServesNodes c) {client : Client} {provider : Provider}
    (hbuild : b.build library dice = .ok (client, provider)) (e : Endpoint) :
    Provider.roster.supports provider e = Source.lists c.nodes e := by
  obtain ⟨primary, secondary, hmade, rfl⟩ := made_of_build hbuild
  have hprimary := supplies_of_primaryProvider hmade.primary
  have hsecondary := follows_of_secondaryProvider hmade.secondary
  rw [hb.primary, hb.primaryNodes] at hprimary
  rw [Provider.supports_followedBy, hb.supports hprimary, Configuration.nodes]
  cases hsecondary with
  | none _ hnil =>
    rw [hb.secondaryNodes] at hnil
    rw [hnil, List.append_nil]
    exact Bool.or_false _
  | some _ supplied =>
    rw [hb.secondary, hb.secondaryNodes] at supplied
    show (_ || Provider.roster.supports _ e) = _
    rw [hb.supports supplied, Source.lists, Source.lists, Source.lists, List.any_append]

end Builder

/-! ## Refusals -/

/-- No end comes of an endpoint that is unknown. -/
theorem Job.Ends.ne_unknown [DomainNames] {R : Roster σ} {T : Transport τ} {j : Job}
    {p q : Progress σ τ} {o : Except Failure Response} (h : Ends R T j p o q) (e : Endpoint) :
    o ≠ .error (.unknownEndpoint e) := by
  intro ho
  obtain h | h | ⟨_, h⟩ | ⟨_, _, -, -, -, h⟩ := h.error_cases ho <;> cases h

namespace Client

/-- **A request over plain HTTP is refused for its endpoint just when that is not supported.** -/
theorem refuses_iff [DomainNames] (R : Roster σ) (T : Transport τ) (c : Client) {r : Request}
    (context : Context) (w : World σ τ) {supplied : Endpoint} (hplain : r.isSecure = false)
    (hend : r.endpoint = .ok supplied) (e : Endpoint) :
    (c.execute R T r context w).outcome = .error (.unknownEndpoint e) ↔
      e = supplied ∧ R.supports w.roster supplied = false := by
  cases hsup : R.supports w.roster supplied with
  | true =>
    rw [execute_eq_failOver T c context hplain hend hsup]
    simp only [reduceCtorEq, and_false, iff_false]
    obtain ⟨q, -, hends⟩ := Job.run_ends R T (c.job r supplied context) w
    exact hends.ne_unknown e
  | false =>
    simp only [execute, hplain, hend, hsup, Bool.false_eq_true, if_false, Execution.refused,
      Except.error.injEq, Failure.unknownEndpoint.injEq, and_true]
    exact eq_comm

end Client

/-! ## Clients of one node -/

namespace Rehearsal

/-- The configuration of one node on port 8080. -/
def configuration (host : String) : Configuration :=
  .ofNodes (some "test") .http [⟨host, some 8080, some 8080⟩] []

/-- What is asked of a client that works with it. -/
def builder (host : String) : Builder :=
  .ofCalls [.configured (configuration host), .strategy .simpleFailover]

end Rehearsal

namespace Client

/-- **When the URL of an own node is refused.**  A client works with the nodes of a configuration that
    was read from node texts.  The URL of such a node is refused as unknown just when no node has, in
    the same letters, the host that the URL parser makes of it, on the same port or on one that the
    URL does not show, and this does not change with the requests that the client has executed.  A
    node whose host the URL parser leaves as it is is never refused. -/
theorem own_node_unknown_iff [DomainNames] {shortName : Option String}
    {primary secondary : List String} {c : Configuration}
    (hnew : Configuration.new shortName primary secondary = .ok c) {library : PatternLibrary}
    {dice : Dice} {b : Builder} (hb : b.ServesNodes c) {client : Client} {provider : Provider}
    (hbuild : b.build library dice = .ok (client, provider)) {n : Endpoint} (hn : n ∈ c.nodes) :
    ∃ p, n.port = some p ∧
      ∀ u, Url.parse ("http://" ++ (n.host ++ ":" ++ Url.portText p) ++ "/") = .ok u →
        ∃ e, Endpoint.ofUrl u = .ok e ∧
          (Provider.roster.supports provider e = true ↔ c.Names e) ∧
          (∀ host, Host.special? n.host.toList = .ok host →
            e = .of (String.ofList (Endpoint.withoutBrackets host.text.toList))
              (if p = 80 then none else some p) ∧ (e.host = n.host → c.Names e)) ∧
          ∀ {τ : Type} (T : Transport τ) (w : World Provider τ)
            (earlier : List (Request × Context)) (r : Request) (context : Context),
            w.roster = provider → r.url = u →
              let now := client.serve Provider.roster T w earlier
              ((∃ e', (client.execute Provider.roster T r context now).outcome =
                .error (.unknownEndpoint e')) ↔ ¬ c.Names e) := by
  have hports := Configuration.new_ports hnew
  obtain ⟨p, hp⟩ := hports n hn
  refine ⟨p, hp, fun u hu => ?_⟩
  obtain ⟨hscheme, host, hhost⟩ := Url.host_of_parse_http hu
  have hend : Endpoint.ofUrl u =
      .ok (.of (String.ofList (Endpoint.withoutBrackets host.text.toList)) u.port?) := by
    rw [Endpoint.ofUrl, hhost]
  generalize he :
    Endpoint.of (String.ofList (Endpoint.withoutBrackets host.text.toList)) u.port? = e at hend
  have hsupports : Provider.roster.supports provider e = true ↔ c.Names e := by
    rw [Builder.supports_of_build hb hbuild, Source.lists_iff hports]
    rfl
  refine ⟨e, hend, hsupports, ?_, ?_⟩
  · intro own hown
    -- The URL was put together from the host text, so the parser finds the same host in it.
    have hparse := Url.parse_http hown p
    rw [String.ofList_toList] at hparse
    cases hparse.symm.trans hu
    cases hhost
    rw [← he, ← Url.shownPort_http]
    refine ⟨rfl, fun hsame => ⟨n, hn, hsame.symm, ?_⟩⟩
    rw [hp]
    show Url.shownPort "http" p = none ∨ Url.shownPort "http" p = some p
    rw [Url.shownPort_http]
    split
    · exact Or.inl rfl
    · exact Or.inr rfl
  · intro τ T w earlier r context hw hr now
    have hplain : r.isSecure = false := by
      rw [Request.isSecure, hr, hscheme]
      rfl
    have hrequest : r.endpoint = .ok e := by
      rw [Request.endpoint, hr, hend]
    -- Earlier requests may have moved the providers, but not what they support.
    have hsteady := serve_keeps
      (Provider.roster_keeps_supports (Provider.roster.supports provider)) T client earlier (w := w)
      (by rw [hw]; exact fun _ => rfl)
    have hnow : Provider.roster.supports now.roster e = Provider.roster.supports provider e :=
      hsteady e
    constructor
    · rintro ⟨e', hrefused⟩ hnames
      obtain ⟨-, hno⟩ := (refuses_iff Provider.roster T client context now hplain hrequest e').mp
        hrefused
      rw [hnow, hsupports.mpr hnames] at hno
      cases hno
    · intro hnames
      refine ⟨e, (refuses_iff Provider.roster T client context now hplain hrequest e).mpr
        ⟨rfl, ?_⟩⟩
      rw [hnow, Bool.eq_false_iff]
      exact fun h => hnames (hsupports.mp h)

/-- A node that is spelled as the URL parser spells it is accepted. -/
theorem own_node_accepted :
    ∃ client provider u e,
      Configuration.new (some "test") ["node-1:8080"] [] = .ok (Rehearsal.configuration "node-1") ∧
        (Rehearsal.builder "node-1").build Pattern.library .zeros = .ok (client, provider) ∧
        Url.parse "http://node-1:8080/" = .ok u ∧ Endpoint.ofUrl u = .ok e ∧
        Provider.roster.supports provider e = true := by
  have hnew : Configuration.new (some "test") ["node-1:8080"] [] =
      .ok (Rehearsal.configuration "node-1") := rfl
  obtain ⟨client, provider, hbuild⟩ :=
    @Builder.build_ok Pattern.library .zeros (Rehearsal.builder "node-1") (by decide +kernel)
  obtain ⟨p, hp, hknown⟩ := own_node_unknown_iff hnew
    (Builder.servesNodes_ofCalls (s := .simpleFailover) (by decide)) hbuild
    (n := ⟨"node-1", some 8080, some 8080⟩) List.mem_cons_self
  cases hp
  have hparse : Url.parse "http://node-1:8080/" =
      .ok ⟨"http", some ⟨"", none, some (.name "node-1"), some 8080⟩, false, "/", none, none⟩ := by
    decide +kernel
  have hread : Host.special? "node-1".toList = .ok (.name "node-1") := by decide +kernel
  obtain ⟨e, hend, hsupports, hspelled, -⟩ := hknown _ hparse
  obtain ⟨rfl, hnames⟩ := hspelled _ hread
  exact ⟨client, provider, _, _, hnew, hbuild, hparse, hend, hsupports.mpr (hnames rfl)⟩

/-- A node with a capital in its name is refused: the URL parser has it in lower case. -/
theorem own_node_refused :
    ∃ client provider u e,
      Configuration.new (some "test") ["Node-1:8080"] [] = .ok (Rehearsal.configuration "Node-1") ∧
        (Rehearsal.configuration "Node-1").protocol = .http ∧
        ⟨"Node-1", some 8080, some 8080⟩ ∈ (Rehearsal.configuration "Node-1").nodes ∧
        (Rehearsal.builder "Node-1").build Pattern.library .zeros = .ok (client, provider) ∧
        Url.parse "http://Node-1:8080/" = .ok u ∧ Endpoint.ofUrl u = .ok e ∧
        Provider.roster.supports provider e = false := by
  obtain ⟨client, provider, hbuild⟩ :=
    @Builder.build_ok Pattern.library .zeros (Rehearsal.builder "Node-1") (by decide +kernel)
  have hparse : Url.parse "http://Node-1:8080/" =
      .ok ⟨"http", some ⟨"", none, some (.name "node-1"), some 8080⟩, false, "/", none, none⟩ := by
    decide +kernel
  refine ⟨client, provider, _, .of "node-1" (some 8080), rfl, rfl, List.mem_cons_self, hbuild,
    hparse, rfl, ?_⟩
  rw [Builder.supports_of_build (Builder.servesNodes_ofCalls (s := .simpleFailover) (by decide))
    hbuild]
  decide

end Client

end Failover
