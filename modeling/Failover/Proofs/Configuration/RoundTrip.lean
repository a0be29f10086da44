import Failover.Proofs.Configuration.Nodes
import Failover.Proofs.Configuration.Written
/-!
# Writing configurations and reading them back

* `NodeText.ofNode` : the parts that a node is written with; `NodeText.host_of_trim_text` : the host that
  is read again is the host without the blanks in front of it;
* `Configuration.Obtained` : configurations that are made of node texts or read, with settings changed
  afterwards; `Configuration.Obtained.wellFormed` : what is true of their nodes;
* `Configuration.ofJsonText_text_iff` : which configurations are read back from their text.
-/

set_option autoImplicit false

namespace Failover

open Text (isBlank trim)

/-! ## Nodes and their texts -/

namespace NodeText

/-- The parts that a node is written with. -/
def ofNode (p : Protocol) (e : Endpoint) : NodeText where
  protocol := match p with
    | .http => none
    | .https => some .https
  host := e.host.toList
  port := some (Text.decimal (e.portOr p.defaultPort).toNat)
  adminPort := some (Text.decimal (e.adminPort.getD (e.portOr p.defaultPort)).toNat)

theorem toList_text (p : Protocol) (e : Endpoint) :
    (Node.text p e).toList = (ofNode p e).written := by
  have hcolon : ":".toList = [':'] := rfl
  unfold Node.text
  cases p <;>
    (simp only [String.toList_append, String.toList_ofList, hcolon, List.append_assoc]; rfl)

theorem valid_ofNode {e : Endpoint} (h : Node.Configured e) (p : Protocol) : (ofNode p e).Valid where
  named := by simpa [ofNode] using h.named
  colonless := h.colonless
  inOrder := fun hnone => by cases hnone
  port := fun ds hds => by
    cases hds
    exact isPort_decimal _
  adminPort := fun ds hds => by
    cases hds
    exact isPort_decimal _

/-- The parts are those of the node. -/
theorem endpoint_ofNode {e : Endpoint} (h : Node.Complete e) (p : Protocol) :
    (ofNode p e).endpoint p = e := by
  obtain ⟨host, port, admin⟩ := e
  obtain ⟨port, rfl⟩ := h.port
  obtain ⟨admin, rfl⟩ := h.adminPort
  show Endpoint.mk (String.ofList host.toList) (some (portOf _)) (some (portOf _)) = _
  rw [String.ofList_toList, portOf_decimal, portOf_decimal]
  rfl

theorem not_blank_ports {n : NodeText} (h : n.Valid) :
    ∀ c ∈ portText n.port ++ portText n.adminPort, isBlank c = false := by
  have hport : ∀ digits : Option (List Char), (∀ ds ∈ digits, IsPort ds) →
      ∀ c ∈ portText digits, isBlank c = false := by
    intro digits hdigits c hc
    cases digits with
    | none => cases hc
    | some ds =>
      rcases List.mem_cons.mp hc with rfl | hc
      · decide
      · exact Text.isBlank_of_isDigit ((hdigits ds rfl).isDigit c hc)
  intro c hc
  rcases List.mem_append.mp hc with hc | hc
  · exact hport n.port h.port c hc
  · exact hport n.adminPort h.adminPort c hc

/-- Blanks are trimmed only in front of the host. -/
theorem trim_text {e : Endpoint} (h : Node.Configured e) (p : Protocol) :
    trim (Node.text p e).toList =
      (Protocol.opening (ofNode p e).protocol ++ e.host.toList).dropWhile isBlank ++
        (portText (ofNode p e).port ++ portText (ofNode p e).adminPort) := by
  have hports := not_blank_ports (valid_ofNode h p)
  rw [toList_text, written, ← List.append_assoc]
  exact Text.trim_append _ (List.cons_ne_nil _ _) (fun c hc => hports c (List.mem_of_head? hc))
    (fun c hc => hports c (List.mem_of_getLast? hc))

/-- A node whose text is trimmed already. -/
def Kept (p : Protocol) (e : Endpoint) : Prop :=
  p = .https ∨ ∀ c ∈ e.host.toList.head?, isBlank c = false

theorem trim_text_of_kept {e : Endpoint} (h : Node.Configured e) {p : Protocol} (hkept : Kept p e) :
    trim (Node.text p e).toList = (ofNode p e).written := by
  have hfront : (Protocol.opening (ofNode p e).protocol ++ e.host.toList).dropWhile isBlank =
      Protocol.opening (ofNode p e).protocol ++ e.host.toList := by
    apply Text.dropWhile_isBlank
    cases p with
    | https =>
      intro c hc
      cases hc
      decide
    | http => exact hkept.resolve_left (by decide)
  rw [trim_text h, hfront, written, List.append_assoc]
  rfl

/-- **The host that is read again has lost the blanks in front of it.** -/
theorem host_of_trim_text {e : Endpoint} (h : Node.Configured e) {n : NodeText} (hn : n.Valid)
    (htext : trim (Node.text .http e).toList = n.written) :
    n.host = e.host.toList.dropWhile isBlank := by
  have hcolon : ':' ∉ e.host.toList.dropWhile isBlank :=
    fun hin => h.colonless ((List.dropWhile_sublist _).mem hin)
  have hparse := parse?_append none hcolon (valid_ofNode h .http)
  have hagain := parse?_written hn
  rw [← htext, trim_text h] at hagain
  have heq := hparse.symm.trans hagain
  -- Of a host of blanks only nothing is left, and such a text is not read.
  split at heq
  · cases heq
  · rw [← Option.some.inj heq]

end NodeText

/-! ## Where configurations come from -/

namespace Configuration

/-- Configurations that are made of node texts or read, and then changed setting by setting. -/
inductive Obtained : Configuration → Prop where
  | new {shortName : Option String} {primary secondary : List String} {c : Configuration}
      (h : Configuration.new shortName primary secondary = .ok c) : Obtained c
  | ofJsonText {text : String} {c : Configuration} (h : ofJsonText text = .ok c) : Obtained c
  | ofJson {v : Json} {c : Configuration} (h : ofJson v = .ok c) : Obtained c
  | change {c : Configuration} (h : Obtained c) (s : Setting) : Obtained (c.change s)

/-- The duration is one of whole milliseconds that 64 bits hold. -/
def WholeMillis (d : Duration) : Prop := ∃ n < 18446744073709551616, d = .ofMillis n

theorem WholeMillis.read_back {d : Duration} (h : WholeMillis d) :
    Duration.ofMillis (min d.millis 18446744073709551615) = d := by
  obtain ⟨n, hn, rfl⟩ := h
  have hmillis : (Duration.ofMillis n).millis = n := by
    rw [Duration.millis, Duration.ofMillis, Duration.nanos_clamp, Duration.largest]
    omega
  rw [hmillis, Nat.min_eq_left (by omega)]

/-- What is read of the timeouts fits 64 bits. -/
def Fields.Fit (s : Fields) : Prop :=
  (∀ n ∈ s.timeoutMs, n < 18446744073709551616) ∧
    ∀ n ∈ s.connectTimeoutMs, n < 18446744073709551616

theorem eq_put_of_once {α : Type} {name : String} {seen : Option α} {read : Json.Reader α}
    {put : α → Fields} {ts r : List Json.Token} {t : Fields}
    (h : once name seen read put ts = .ok (t, r)) : ∃ a ts', read ts' = .ok (a, r) ∧ t = put a := by
  unfold once at h
  split at h
  · cases h
  · cases hread : Json.readField read ts with
    | error m =>
      rw [hread] at h
      cases h
    | ok p =>
      rw [hread] at h
      cases h
      obtain ⟨ts', -, hread⟩ := ok_of_bind hread
      exact ⟨p.1, ts', hread, rfl⟩

theorem lt_of_readNat {bound n : Nat} {ts r : List Json.Token}
    (h : Json.readNat bound ts = .ok (n, r)) : n < bound := by
  unfold Json.readNat at h
  split at h
  · split at h
    · cases h
      assumption
    · cases h
  · cases h
  · cases h

theorem Fields.fit_step {s t : Fields} {name : String} {ts r : List Json.Token} (hs : s.Fit)
    (h : Fields.step s name ts = .ok (t, r)) : t.Fit := by
  unfold Fields.step at h
  -- The names come in their order: the timeouts eighth and ninth, and all unknown names last.
  split at h
  case h_8 =>
    obtain ⟨n, ts', hread, rfl⟩ := eq_put_of_once h
    refine ⟨fun m hm => ?_, hs.2⟩
    cases hm
    exact lt_of_readNat hread
  case h_9 =>
    obtain ⟨n, ts', hread, rfl⟩ := eq_put_of_once h
    refine ⟨hs.1, fun m hm => ?_⟩
    cases hm
    exact lt_of_readNat hread
  case h_11 =>
    cases hskip : (Json.readColon ts).bind Json.skipValue with
    | error m =>
      rw [hskip] at h
      cases h
    | ok r' =>
      rw [hskip] at h
      cases h
      exact hs
  all_goals
    obtain ⟨v, ts', -, rfl⟩ := eq_put_of_once h
    exact hs

/-- A configuration that is read is made of fields whose timeouts fit. -/
theorem fields_of_ofTokens {ts r : List Json.Token} {c : Configuration}
    (h : ofTokens ts = .ok (c, r)) : ∃ s : Fields, s.Fit ∧ s.configuration = .ok c := by
  have hnone : Fields.none.Fit := by
    constructor <;>
      (intro n hn; cases hn)
  unfold ofTokens at h
  split at h
  · obtain ⟨⟨s, r'⟩, hs, h⟩ := ok_of_bind h
    obtain ⟨d, hd, h⟩ := ok_of_bind h
    cases h
    exact ⟨s, Json.readFields_keeps Fields.fit_step hnone hs, hd⟩
  · obtain ⟨⟨s, r'⟩, hs, h⟩ := ok_of_bind h
    obtain ⟨d, hd, h⟩ := ok_of_bind h
    cases h
    exact ⟨s, Json.readPlaces_keeps Fields.fit_step hnone hs, hd⟩
  · cases h

theorem fields_of_readAll {ts : List Json.Token} {c : Configuration}
    (h : Json.readAll ofTokens ts = .ok c) : ∃ s : Fields, s.Fit ∧ s.configuration = .ok c := by
  unfold Json.readAll at h
  split at h
  · cases h
  · rename_i hread
    cases h
    exact fields_of_ofTokens hread
  · cases h

/-- The nodes of the fields are those of a configuration of node texts, and the timeouts are whole. -/
theorem wellFormed_of_fields {s : Fields} {c : Configuration} (hs : s.Fit)
    (h : s.configuration = .ok c) :
    WellFormed c ∧ WholeMillis c.timeout ∧ WholeMillis c.connectTimeout := by
  unfold Fields.configuration at h
  split at h
  · cases h
  · rename_i d hd
    cases h
    refine ⟨(wellFormed_new hd).congr rfl rfl rfl, ⟨_, ?_, rfl⟩, ⟨_, ?_, rfl⟩⟩
    · cases htimeout : s.timeoutMs with
      | none => decide
      | some n => exact hs.1 n htimeout
    · cases htimeout : s.connectTimeoutMs with
      | none => decide
      | some n => exact hs.2 n htimeout

theorem wellFormed_ofJsonText {text : String} {c : Configuration} (h : ofJsonText text = .ok c) :
    WellFormed c ∧ WholeMillis c.timeout ∧ WholeMillis c.connectTimeout := by
  obtain ⟨s, hs, hc⟩ := fields_of_readAll h
  exact wellFormed_of_fields hs hc

theorem wellFormed_ofJson {v : Json} {c : Configuration} (h : ofJson v = .ok c) :
    WellFormed c ∧ WholeMillis c.timeout ∧ WholeMillis c.connectTimeout := by
  unfold ofJson at h
  cases hread : Json.readAll ofTokens v.tokens with
  | error m =>
    rw [hread] at h
    cases h
  | ok d =>
    rw [hread] at h
    cases h
    obtain ⟨s, hs, hc⟩ := fields_of_readAll hread
    exact wellFormed_of_fields hs hc

/-- **The nodes of every such configuration are well formed.** -/
theorem Obtained.wellFormed {c : Configuration} (h : Obtained c) : WellFormed c := by
  induction h with
  | new h => exact wellFormed_new h
  | ofJsonText h => exact (wellFormed_ofJsonText h).1
  | ofJson h => exact (wellFormed_ofJson h).1
  | change _ s ih => cases s <;> exact ih.congr rfl rfl rfl

/-! ## Reading back -/

theorem groupOf_ofNode {p : Protocol} {es : List Endpoint} (h : p = .https → es ≠ []) :
    groupOf (es.map (NodeText.ofNode p)) = p := by
  cases p with
  | http => cases es <;> rfl
  | https =>
    cases es with
    | nil => exact absurd rfl (h rfl)
    | cons e es => rfl

theorem spelled_texts {p : Protocol} {es : List Endpoint} (h : ∀ e ∈ es, Node.Configured e)
    (hkept : ∀ e ∈ es, NodeText.Kept p e) :
    Node.Spelled (es.map (Node.text p)) (es.map (NodeText.ofNode p)) where
  texts := by
    rw [List.map_map, List.map_map]
    exact List.map_congr_left fun e he => NodeText.trim_text_of_kept (h e he) (hkept e he)
  valid := by
    intro n hn
    obtain ⟨e, he, rfl⟩ := List.mem_map.mp hn
    exact NodeText.valid_ofNode (h e he) p

/-- Nothing is lost of nodes that name different places. -/
theorem distinct_endpoints {p : Protocol} {es : List Endpoint} (h : ∀ e ∈ es, Node.Complete e)
    (hapart : es.Pairwise fun a b => a.same b = false) :
    Endpoint.distinct ((es.map (NodeText.ofNode p)).map (NodeText.endpoint p)) = es := by
  have hsame : (es.map (NodeText.ofNode p)).map (NodeText.endpoint p) = es := by
    rw [List.map_map]
    exact (List.map_congr_left fun e he => NodeText.endpoint_ofNode (h e he) p).trans
      (List.map_id es)
  rw [hsame, Endpoint.distinct_eq_self hapart]

theorem described_texts {c : Configuration} (h : WellFormed c)
    (hkept : ∀ e ∈ c.nodes, NodeText.Kept c.protocol e) :
    groupOf (c.primaryNodes.map (NodeText.ofNode c.protocol) ++
        c.secondaryNodes.map (NodeText.ofNode c.protocol)) = c.protocol ∧
      Described (c.primaryNodes.map (Node.text c.protocol))
        (c.secondaryNodes.map (Node.text c.protocol))
        (c.primaryNodes.map (NodeText.ofNode c.protocol))
        (c.secondaryNodes.map (NodeText.ofNode c.protocol)) := by
  have hgroup : groupOf (c.primaryNodes.map (NodeText.ofNode c.protocol) ++
      c.secondaryNodes.map (NodeText.ofNode c.protocol)) = c.protocol := by
    rw [← List.map_append]
    exact groupOf_ofNode h.inhabited
  have hspelled : ∀ {es : List Endpoint}, (∀ e ∈ es, e ∈ c.nodes) →
      Node.Spelled (es.map (Node.text c.protocol)) (es.map (NodeText.ofNode c.protocol)) :=
    fun hes => spelled_texts (fun e he => (h.complete e (hes e he)).toConfigured)
      fun e he => hkept e (hes e he)
  refine ⟨hgroup, hspelled fun _ => List.mem_append_left _, hspelled fun _ => List.mem_append_right _,
    fun n hn q hq => ?_⟩
  rw [← List.map_append] at hn
  obtain ⟨e, -, rfl⟩ := List.mem_map.mp hn
  rw [hgroup]
  cases hp : c.protocol with
  | http =>
    rw [hp] at hq
    cases hq
  | https =>
    rw [hp] at hq
    cases hq
    rfl

/-- The written nodes of a configuration are its nodes, if they are all written as they are read. -/
theorem new_texts {c : Configuration} (h : WellFormed c)
    (hkept : ∀ e ∈ c.nodes, NodeText.Kept c.protocol e) :
    new c.shortName (c.primaryNodes.map (Node.text c.protocol))
        (c.secondaryNodes.map (Node.text c.protocol)) =
      .ok (ofNodes c.shortName c.protocol c.primaryNodes c.secondaryNodes) := by
  obtain ⟨hgroup, hdescribed⟩ := described_texts h hkept
  rw [new_of_described hdescribed, hgroup,
    distinct_endpoints (fun e he => h.complete e (List.mem_append_left _ he)) h.primaryApart,
    distinct_endpoints (fun e he => h.complete e (List.mem_append_right _ he)) h.secondaryApart]

/-- A configuration of nodes that are written as they are read is read back. -/
theorem configuration_fieldsOf {c : Configuration} (h : WellFormed c)
    (hkept : ∀ e ∈ c.nodes, NodeText.Kept c.protocol e) (htimeout : WholeMillis c.timeout)
    (hconnect : WholeMillis c.connectTimeout) : c.fieldsOf.configuration = .ok c := by
  have hname : c.fieldsOf.shortName.getD none = c.shortName := by
    rw [fieldsOf]
    cases c.shortName <;> rfl
  have hheader : c.fieldsOf.transactionHeader.getD none = c.transactionHeader := by
    rw [fieldsOf]
    cases c.transactionHeader <;> rfl
  have hnodes : new c.shortName (c.fieldsOf.primaryNodes.getD [])
      (c.fieldsOf.secondaryNodes.getD []) =
        .ok (ofNodes c.shortName c.protocol c.primaryNodes c.secondaryNodes) := new_texts h hkept
  have htime : Duration.ofMillis (c.fieldsOf.timeoutMs.getD usualTimeoutMs) = c.timeout :=
    htimeout.read_back
  have hconnectTime : Duration.ofMillis (c.fieldsOf.connectTimeoutMs.getD usualConnectTimeoutMs) =
      c.connectTimeout := hconnect.read_back
  unfold Fields.configuration
  rw [hname, hnodes, hheader, htime, hconnectTime]
  rfl

/-- **No host starts with a blank in a configuration that is read from nodes of plain HTTP.** -/
theorem host_of_new_texts {c d : Configuration} (h : WellFormed c) (hhttp : c.protocol = .http)
    {shortName : Option String}
    (hnew : new shortName (c.primaryNodes.map (Node.text c.protocol))
      (c.secondaryNodes.map (Node.text c.protocol)) = .ok d) :
    ∀ n ∈ d.nodes, ∀ b ∈ n.host.toList.head?, isBlank b = false := by
  obtain ⟨ps, ss, hdescribed⟩ := described_of_new hnew
  rw [new_of_described hdescribed] at hnew
  cases hnew
  have hread : ∀ {es : List Endpoint} {ns : List NodeText}, (∀ e ∈ es, e ∈ c.nodes) →
      Node.Spelled (es.map (Node.text c.protocol)) ns → ∀ m ∈ ns,
        ∀ b ∈ m.host.head?, isBlank b = false := by
    intro es ns hes hspelled m hm b hb
    have htext : m.written ∈ ns.map NodeText.written := List.mem_map_of_mem hm
    rw [← hspelled.texts, List.map_map] at htext
    obtain ⟨e, he, htext⟩ := List.mem_map.mp htext
    have hhost := NodeText.host_of_trim_text (h.complete e (hes e he)).toConfigured
      (hspelled.valid m hm) (hhttp ▸ htext)
    have hstop := List.head?_dropWhile_not isBlank e.host.toList
    rw [← hhost, hb] at hstop
    exact hstop
  intro n hn b hb
  rcases List.mem_append.mp hn with hn | hn
  · obtain ⟨m, hm, rfl⟩ := List.mem_map.mp ((Endpoint.firsts_distinct _).mem hn)
    rw [NodeText.endpoint, String.toList_ofList] at hb
    exact hread (fun _ => List.mem_append_left _) hdescribed.primary m hm b hb
  · obtain ⟨m, hm, rfl⟩ := List.mem_map.mp ((Endpoint.firsts_distinct _).mem hn)
    rw [NodeText.endpoint, String.toList_ofList] at hb
    exact hread (fun _ => List.mem_append_right _) hdescribed.secondary m hm b hb

/-- A node of plain HTTP whose host starts with a blank is not read back. -/
theorem host_ne_of_blank {c d : Configuration} (h : WellFormed c) (hhttp : c.protocol = .http)
    (hread : ofJsonText c.toJson.text = .ok d) {n : Endpoint} {b : Char}
    (hfirst : b ∈ n.host.toList.head?) (hblank : isBlank b = true) :
    ∀ m ∈ d.nodes, m.host ≠ n.host := by
  intro m hm heq
  rw [ofJsonText_text] at hread
  unfold Fields.configuration at hread
  split at hread
  · cases hread
  · rename_i e hnew
    cases hread
    rw [← heq] at hfirst
    rw [host_of_new_texts h hhttp hnew m hm b hfirst] at hblank
    cases hblank

/-- **Which configurations are read back from their text.**  Those of nodes over TLS, and those of which
    no host starts with a blank.  Otherwise, if a configuration is read, a node has gone from it. -/
theorem ofJsonText_text_iff {c : Configuration} (h : Obtained c) (htimeout : WholeMillis c.timeout)
    (hconnect : WholeMillis c.connectTimeout) :
    (ofJsonText c.toJson.text = .ok c ↔
        c.protocol = .https ∨ ∀ n ∈ c.nodes, ∀ b ∈ n.host.toList.head?, isBlank b = false) ∧
      (¬ (c.protocol = .https ∨ ∀ n ∈ c.nodes, ∀ b ∈ n.host.toList.head?, isBlank b = false) →
        ∀ d, ofJsonText c.toJson.text = .ok d → ∃ n ∈ c.nodes, ∀ m ∈ d.nodes, m.host ≠ n.host) := by
  have hlost : ¬ (c.protocol = .https ∨
      ∀ n ∈ c.nodes, ∀ b ∈ n.host.toList.head?, isBlank b = false) →
      ∀ d, ofJsonText c.toJson.text = .ok d → ∃ n ∈ c.nodes, ∀ m ∈ d.nodes, m.host ≠ n.host := by
    intro hno d hd
    obtain ⟨hhttps, hkept⟩ := not_or.mp hno
    have hhttp : c.protocol = .http := by
      cases hp : c.protocol with
      | http => rfl
      | https => exact absurd hp hhttps
    simp only [not_forall, Bool.not_eq_false] at hkept
    obtain ⟨n, hn, b, hfirst, hblank⟩ := hkept
    exact ⟨n, hn, host_ne_of_blank h.wellFormed hhttp hd hfirst hblank⟩
  refine ⟨⟨fun hread => ?_, fun hkept => ?_⟩, hlost⟩
  · by_contra hno
    obtain ⟨n, hn, hdiffer⟩ := hlost hno c hread
    exact hdiffer n hn rfl
  · rw [ofJsonText_text]
    refine configuration_fieldsOf h.wellFormed (fun e he => ?_) htimeout hconnect
    exact hkept.imp_right fun hkept => hkept e he

/-- Two nodes of plain HTTP, one of them of a host with a blank in front. -/
def blankInFront : Configuration :=
  { ofNodes none .http [⟨" a", some 80, some 80⟩, ⟨"b", some 80, some 80⟩] [] with
    timeout := .ofMillis 7 }

/-- A blank may stand behind `http://`, and is lost as this is not written again. -/
theorem ofJsonText_text_blankInFront :
    ofJsonText "\x7b\"primaryNodes\":[\"http:// a\",\"b\"],\"timeoutMs\":7\x7d" =
        .ok blankInFront ∧
      Obtained blankInFront ∧ WholeMillis blankInFront.timeout ∧
      WholeMillis blankInFront.connectTimeout ∧
      ofJsonText blankInFront.toJson.text ≠ .ok blankInFront ∧
      ∀ d, ofJsonText blankInFront.toJson.text = .ok d →
        ∃ n ∈ blankInFront.nodes, ∀ m ∈ d.nodes, m.host ≠ n.host := by
  have hread : ofJsonText "\x7b\"primaryNodes\":[\"http:// a\",\"b\"],\"timeoutMs\":7\x7d" =
      .ok blankInFront := by
    apply ok_of_toOption
    decide +kernel
  obtain ⟨-, htimeout, hconnect⟩ := wellFormed_ofJsonText hread
  obtain ⟨hiff, hlost⟩ := ofJsonText_text_iff (.ofJsonText hread) htimeout hconnect
  have hblank : ¬ (blankInFront.protocol = .https ∨
      ∀ n ∈ blankInFront.nodes, ∀ b ∈ n.host.toList.head?, isBlank b = false) := by
    rintro (hhttps | hkept)
    · cases hhttps
    · exact absurd (hkept ⟨" a", some 80, some 80⟩ (by decide) ' ' (by decide)) (by decide)
  exact ⟨hread, .ofJsonText hread, htimeout, hconnect, fun hback => hblank (hiff.mp hback),
    hlost hblank⟩

end Configuration

end Failover
