import Failover.Proofs.Configuration.Nodes
import Failover.Proofs.Request
/-!
# Addressing the nodes of a configuration

The configuration takes any text without a colon for a host.  A request can be aimed at it only if the
URL parser takes it for one too.

* `Request.OverHttp` : requests to an `http` URL.  `Request.overHttp_of_parse`: what the URL parser
  makes of one;
* `Request.retarget_configured` : aiming such a request at a node is reading the host of the node;
* `Job.run_unprepared` : a run that is handed a node that it cannot be aimed at ends there;
* `Configuration.node_addressable_iff` : which nodes can be addressed, and what the others do;
* `Configuration.node_unaddressable` : a node that cannot.
-/

set_option autoImplicit false

namespace Failover

variable {σ τ : Type}

open Host (Delimits)

/-! ## Hosts without colons -/

namespace Node.Configured

variable {n : Endpoint} (h : Configured n)
include h

/-- In a URL, the host of a node stands as it is. -/
theorem urlHost : n.urlHost = n.host := by
  unfold Endpoint.urlHost
  split
  · rename_i haddress
    exact absurd (Ipv6.colon_mem_of_parse? haddress) h.colonless
  · rfl

theorem hostPart : Url.hostPart n.host.toList = .ok n.host.toList := by
  rw [← h.urlHost]
  apply Endpoint.ColonsInAddress.hostPart
  intro hcolon
  exact absurd hcolon h.colonless

/-- If the host of a node is read as one, no delimiter is in it. -/
theorem not_delimits [DomainNames] {host : Host} (hs : Host.special? n.host.toList = .ok host) :
    ∀ c ∈ n.host.toList, ¬ Delimits c := by
  generalize hn : n.host.toList = s at hs
  cases Host.written_of_special? hs with
  | plain _ hplain => exact hplain
  | bracketed haddress =>
    have hcolon := Ipv6.colon_mem_of_parse? haddress
    have hless := h.colonless
    rw [hn] at hless
    simp [hcolon] at hless

end Node.Configured

/-! ## Requests over HTTP -/

/-- The request is one to an `http` URL, which has a host. -/
structure Request.OverHttp (r : Request) : Prop where
  scheme : r.url.scheme = "http"
  rooted : r.url.isOpaque = false
  host : ∃ host, r.url.host? = some host

theorem Request.OverHttp.web {r : Request} (hr : r.OverHttp) : r.url.Web :=
  ⟨Or.inl hr.scheme, hr.rooted, hr.host⟩

/-- Aiming a request at a node is reading the host of the node. -/
theorem Request.retarget_configured [DomainNames] {r : Request} (hr : r.OverHttp) {n : Endpoint}
    (hn : Node.Configured n) :
    (∀ fault, Host.special? n.host.toList = .error fault →
        r.retarget n = .error (.invalidRequest (.badHost n fault))) ∧
      ∀ host, Host.special? n.host.toList = .ok host → ∃ q, r.retarget n = .ok q := by
  have hread : n.readHost = Host.special? n.host.toList := by
    rw [Endpoint.readHost, hn.urlHost, hn.hostPart]
    rfl
  rw [← hread]
  obtain ⟨f, hf, haimed⟩ | ⟨h, hh, haimed⟩ := retarget_cases hr.web n
  · refine ⟨?_, ?_⟩
    · intro fault hfault
      cases hf.symm.trans hfault
      exact haimed
    · intro host hhost
      cases hf.symm.trans hhost
  · refine ⟨?_, ?_⟩
    · intro fault hfault
      cases hh.symm.trans hfault
    · intro host _
      exact ⟨_, haimed⟩

/-- A request over HTTP cannot be aimed at a node just when its host is read as none. -/
theorem Request.retarget_configured_iff [DomainNames] {r : Request} (hr : r.OverHttp) {n : Endpoint}
    (hn : Node.Configured n) :
    (∃ q, r.retarget n = .ok q) ↔ ∃ host, Host.special? n.host.toList = .ok host := by
  obtain ⟨hfails, hworks⟩ := retarget_configured hr hn
  constructor
  · rintro ⟨q, hq⟩
    cases hs : Host.special? n.host.toList with
    | ok host => exact ⟨host, rfl⟩
    | error fault => cases hq.symm.trans (hfails fault hs)
  · rintro ⟨host, hs⟩
    exact hworks host hs

theorem Request.OverHttp.isSecure {r : Request} (hr : r.OverHttp) : r.isSecure = false := by
  rw [Request.isSecure, hr.scheme]
  decide

/-! ## Runs -/

/-- A client cannot prepare a request for a node that it cannot be aimed at. -/
theorem Client.prepare_of_retarget_error [DomainNames] {c : Client} {r : Request} {n : Endpoint}
    {f : Failure} {context : Context} (hport : ∃ p, n.port = some p) (h : r.retarget n = .error f) :
    c.prepare r n context = .error f := by
  obtain ⟨p, hp⟩ := hport
  rw [prepare, Endpoint.withDefaultPort_of_some hp, h]
  rfl

/-- **A run that is handed a host that no request can be prepared for ends there**, whatever other
    candidates there are, with no attempt more. -/
theorem Job.run_unprepared [DomainNames] {R : Roster σ} {T : Transport τ} {j : Job} {w : World σ τ}
    {m : Progress σ τ} (hreach : Reaches R T j (j.begin R w) m)
    (hmay : m.session.mayContinue j.context.cancellation m.now = true) {e : Endpoint}
    (he : (j.asked R m).host = .ok e) (hnamed : e.host.isEmpty = false) {f : Failure}
    (hf : j.client.prepare j.request e j.context = .error f) :
    (j.run R T w).1 = .error f ∧ (j.run R T w).2.trail = m.trail := by
  have hunsent : ∀ {e' : Endpoint} {request : Request}, ¬ Sendable R j m e' request := by
    rintro e' request ⟨asked, -, prepared⟩
    cases he.symm.trans asked
    cases hf.symm.trans prepared
  obtain last | ⟨b, e', request, hr, -⟩ := hreach.run_step hmay
  · generalize (j.run R T w).1 = o, (j.run R T w).2 = q at last ⊢
    cases last with
    | unsupplied none => cases he.symm.trans none
    | unnamed asked unnamed =>
      cases he.symm.trans asked
      rw [hnamed] at unnamed
      cases unnamed
    | unprepared asked _ unprepared =>
      cases he.symm.trans asked
      cases hf.symm.trans unprepared
      exact ⟨rfl, rfl⟩
    | answered sent | broken sent | doubtful sent => exact absurd sent.toSendable hunsent
  · exact absurd hr.toSendable hunsent

/-! ## What configurations take -/

namespace Configuration

/-- **Which nodes can be addressed.**

    * Every text that is not empty, holds no colon and does not end in a blank is taken for the host of
      a node;
    * a request over HTTP can be aimed at a node just when the URL parser takes the host of the node
      for one, and then no slash, blank or other delimiter is in it;
    * a request that is handed another node ends there as invalid, although the configuration was
      accepted, and whatever other candidates are left. -/
theorem node_addressable_iff [DomainNames] (R : Roster σ) (T : Transport τ) :
    (∀ (shortName : Option String) (host : String), host ≠ "" → ':' ∉ host.toList →
      (∀ c ∈ host.toList.getLast?, Text.isBlank c = false) →
      ∃ c, new shortName ["http://" ++ host] [] = .ok c ∧
        c.nodes = [⟨host, some 80, some 80⟩]) ∧
    ∀ shortName primary secondary c, new shortName primary secondary = .ok c →
      ∀ n ∈ c.nodes, ∀ r : Request, r.OverHttp →
        ((∃ q, r.retarget n = .ok q) ↔ ∃ host, Host.special? n.host.toList = .ok host) ∧
        ((∃ q, r.retarget n = .ok q) → ∀ c ∈ n.host.toList, ¬ Delimits c) ∧
        ∀ fault, Host.special? n.host.toList = .error fault →
          r.retarget n = .error (.invalidRequest (.badHost n fault)) ∧
          ∀ (client : Client) (context : Context) (w : World σ τ) (supplied : Endpoint)
            (m : Progress σ τ), r.endpoint = .ok supplied → R.supports w.roster supplied = true →
            let j := client.job r supplied context
            let run := client.execute R T r context w
            j.Reaches R T (j.begin R w) m →
            m.session.mayContinue context.cancellation m.now = true →
            (m.session.next R context.cancellation m.now m.roster).host = .ok n →
            run.outcome = .error (.invalidRequest (.badHost n fault)) ∧ run.trail = m.trail := by
  refine ⟨?_, ?_⟩
  · intro shortName host hne hcolon hlast
    exact ⟨_, new_http shortName hne hcolon hlast, rfl⟩
  · intro shortName primary secondary c hnew n hn r hr
    have hnode : Node.Configured n := new_configured hnew n hn
    obtain ⟨hfails, -⟩ := Request.retarget_configured hr hnode
    refine ⟨Request.retarget_configured_iff hr hnode, ?_, ?_⟩
    · intro haimed
      obtain ⟨host, hs⟩ := (Request.retarget_configured_iff hr hnode).mp haimed
      exact hnode.not_delimits hs
    · intro fault hfault
      refine ⟨hfails fault hfault, ?_⟩
      intro client context w supplied m hend hsup j run hreach hmay he
      have hrun : run = Client.failOver R T j w :=
        Client.execute_eq_failOver T client context hr.isSecure hend hsup
      rw [hrun]
      have hnamed : n.host.isEmpty = false := by simpa using hnode.named
      exact Job.run_unprepared hreach hmay he hnamed
        (Client.prepare_of_retarget_error hnode.port (hfails fault hfault))

/-- A trailing slash becomes part of the host, and no request can be aimed at that. -/
theorem node_unaddressable :
    ∃ c, new (some "test") ["http://host/"] [] = .ok c ∧
      c.nodes = [⟨"host/", some 80, some 80⟩] ∧
      ∃ fault, (Rehearsal.request "GET").retarget ⟨"host/", some 80, some 80⟩ =
        .error (.invalidRequest (.badHost ⟨"host/", some 80, some 80⟩ fault)) := by
  have hnew : new (some "test") ["http://" ++ "host/"] [] =
      .ok (ofNodes (some "test") .http [⟨"host/", some 80, some 80⟩] []) := by
    refine new_http (some "test") (by decide) (by decide) ?_
    intro c hc
    have hend : "host/".toList.getLast? = some '/' := by decide
    rw [hend] at hc
    cases hc
    decide
  refine ⟨_, hnew, rfl, ?_⟩
  have hnode := new_configured hnew ⟨"host/", some 80, some 80⟩ List.mem_cons_self
  have hhttp : (Rehearsal.request "GET").OverHttp := ⟨rfl, rfl, _, rfl⟩
  cases hs : Host.special? "host/".toList with
  | error fault => exact ⟨fault, (Request.retarget_configured hhttp hnode).1 fault hs⟩
  | ok host =>
    have hslash : '/' ∈ "host/".toList := by decide
    have hdelimits : Delimits '/' := by decide
    exact absurd hdelimits (hnode.not_delimits hs '/' hslash)

end Configuration

end Failover
