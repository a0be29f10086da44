import Failover.Proofs.Configuration.Acceptance
/-!
# Nodes of a configuration

Which nodes a configuration can have.

* `Node.Configured`, `Node.Complete` : what is true of every node that is read;
* `Configuration.WellFormed`, `Configuration.wellFormed_new` : what is true of the nodes of a
  configuration together;
* `Configuration.new_http` : the configuration of one node written behind `http://`.
-/

set_option autoImplicit false

namespace Failover

/-! ## One node -/

/-- What is true of every node that is read: it has a name without colons, and a port. -/
structure Node.Configured (e : Endpoint) : Prop where
  named : e.host ≠ ""
  colonless : ':' ∉ e.host.toList
  port : ∃ p, e.port = some p

/-- It has an admin port of its own too. -/
structure Node.Complete (e : Endpoint) : Prop extends Node.Configured e where
  adminPort : ∃ p, e.ownAdminPort = some p

theorem NodeText.complete_endpoint {n : NodeText} (h : n.Valid) (p : Protocol) :
    Node.Complete (n.endpoint p) where
  named := fun hempty => h.named (String.ofList_eq_empty_iff.mp hempty)
  colonless := by
    rw [endpoint, String.toList_ofList]
    exact h.colonless
  port := ⟨_, rfl⟩
  adminPort := ⟨_, rfl⟩

/-! ## All nodes -/

namespace Configuration

/-- All nodes. -/
def nodes (c : Configuration) : List Endpoint := c.primaryNodes ++ c.secondaryNodes

/-- What is true of the nodes of a configuration that is made of node texts. -/
structure WellFormed (c : Configuration) : Prop where
  complete : ∀ n ∈ c.nodes, Node.Complete n
  primaryApart : c.primaryNodes.Pairwise fun a b => a.same b = false
  secondaryApart : c.secondaryNodes.Pairwise fun a b => a.same b = false
  inhabited : c.protocol = .https → c.nodes ≠ []

/-- Other settings than the nodes and their protocol do not matter. -/
theorem WellFormed.congr {c d : Configuration} (h : WellFormed c) (hprotocol : d.protocol = c.protocol)
    (hprimary : d.primaryNodes = c.primaryNodes) (hsecondary : d.secondaryNodes = c.secondaryNodes) :
    WellFormed d := by
  have hnodes : d.nodes = c.nodes := by rw [nodes, nodes, hprimary, hsecondary]
  refine ⟨?_, ?_, ?_, ?_⟩
  · rw [hnodes]
    exact h.complete
  · rw [hprimary]
    exact h.primaryApart
  · rw [hsecondary]
    exact h.secondaryApart
  · rw [hprotocol, hnodes]
    exact h.inhabited

theorem wellFormed_new {shortName : Option String} {primary secondary : List String}
    {c : Configuration} (h : new shortName primary secondary = .ok c) : WellFormed c := by
  obtain ⟨ps, ss, hdescribed⟩ := described_of_new h
  rw [new_of_described hdescribed] at h
  cases h
  have hps := Endpoint.firsts_distinct (ps.map (NodeText.endpoint (groupOf (ps ++ ss))))
  have hss := Endpoint.firsts_distinct (ss.map (NodeText.endpoint (groupOf (ps ++ ss))))
  refine ⟨fun n hn => ?_, hps.apart, hss.apart, fun hhttps hnone => ?_⟩
  · rcases List.mem_append.mp hn with hn | hn
    · obtain ⟨m, hm, rfl⟩ := List.mem_map.mp (hps.mem hn)
      exact NodeText.complete_endpoint (hdescribed.primary.valid m hm) _
    · obtain ⟨m, hm, rfl⟩ := List.mem_map.mp (hss.mem hn)
      exact NodeText.complete_endpoint (hdescribed.secondary.valid m hm) _
  · obtain ⟨hpsnone, hssnone⟩ := List.append_eq_nil_iff.mp hnone
    obtain rfl := List.map_eq_nil_iff.mp (hps.eq_nil hpsnone)
    obtain rfl := List.map_eq_nil_iff.mp (hss.eq_nil hssnone)
    cases hhttps

/-- **Every node of a configuration has a name without colons, and a port.** -/
theorem new_configured {shortName : Option String} {primary secondary : List String}
    {c : Configuration} (h : new shortName primary secondary = .ok c) :
    ∀ n ∈ c.nodes, Node.Configured n :=
  fun n hn => ((wellFormed_new h).complete n hn).toConfigured

theorem new_ports {shortName : Option String} {primary secondary : List String} {c : Configuration}
    (h : new shortName primary secondary = .ok c) : ∀ n ∈ c.nodes, ∃ p, n.port = some p :=
  fun n hn => (new_configured h n hn).port

/-- A text behind `http://` becomes a node, if no colon is in it and it does not end in a blank. -/
theorem new_http (shortName : Option String) {host : String} (hne : host ≠ "")
    (hcolon : ':' ∉ host.toList) (hlast : ∀ c ∈ host.toList.getLast?, Text.isBlank c = false) :
    new shortName ["http://" ++ host] [] =
      .ok (ofNodes shortName .http [⟨host, some 80, some 80⟩] []) := by
  have hfull : host.toList ≠ [] := by simpa using hne
  have hports : ∀ ds ∈ (none : Option (List Char)), NodeText.IsPort ds := by
    intro ds hds
    cases hds
  have hvalid : NodeText.Valid ⟨some .http, host.toList, none, none⟩ :=
    ⟨hfull, hcolon, fun _ => rfl, hports, hports⟩
  have htext : ("http://" ++ host).toList = "http://".toList ++ host.toList :=
    String.toList_append
  have htrim : Text.trim ("http://" ++ host).toList = "http://".toList ++ host.toList := by
    rw [htext]
    apply Text.trim_eq_self
    · intro c hc
      cases hc
      decide
    · obtain ⟨d, hd⟩ := Option.isSome_iff_exists.mp (List.getLast?_isSome.mpr hfull)
      rw [List.getLast?_append, hd, Option.some_or, ← hd]
      exact hlast
  have hspelled : Node.Spelled ["http://" ++ host] [⟨some .http, host.toList, none, none⟩] := by
    refine ⟨?_, fun n hn => ?_⟩
    · rw [List.map_singleton, List.map_singleton, htrim, NodeText.written, NodeText.portText,
        List.append_nil, List.append_nil]
      rfl
    · rw [List.mem_singleton.mp hn]
      exact hvalid
  have hdescribed : Described ["http://" ++ host] [] [⟨some .http, host.toList, none, none⟩] [] := by
    refine ⟨hspelled, ⟨rfl, fun n hn => absurd hn List.not_mem_nil⟩, fun n hn q hq => ?_⟩
    obtain rfl := List.mem_singleton.mp hn
    cases hq
    rfl
  rw [new_of_described hdescribed]
  show Except.ok (ofNodes shortName .http [⟨String.ofList host.toList, some 80, some 80⟩] []) = _
  rw [String.ofList_toList]

end Configuration

end Failover
