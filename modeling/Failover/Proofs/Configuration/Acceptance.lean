import Failover.Configuration.Basic
import Failover.Proofs.Endpoint
import Failover.Proofs.Text
/-!
# Which node texts are accepted

* `OnlyMisconfigured` : what fails for a matter of configuration only;
* `NodeText.written`, `NodeText.Valid` : the text of a node, put together from its parts, and the parts
  that a node can have;
* `NodeText.parse?_written`, `NodeText.written_of_parse?` : reading takes the text apart again, and
  accepts no other texts;
* `Node.read_eq_ok_iff`, `Node.readOnto_eq_ok_iff` : one node, and a list of nodes;
* `Configuration.Described` : the parts that lists of texts spell, of one protocol;
* `Configuration.new_reads` : which lists of texts make a configuration, and which one.
-/

set_option autoImplicit false

namespace Failover

/-! ## Failures -/

/-- If the computation fails, then for a matter of configuration. -/
def OnlyMisconfigured {α : Type} (x : Except Failure α) : Prop :=
  ∀ f, x = .error f → ∃ m, f = .configuration m

namespace OnlyMisconfigured

variable {α β : Type}

theorem ok {a : α} : OnlyMisconfigured (.ok a) := fun f h => by cases h

theorem fail (m : Misconfiguration) : OnlyMisconfigured (Node.fail m : Except Failure α) := by
  intro f h
  cases h
  exact ⟨m, rfl⟩

theorem bind {x : Except Failure α} {k : α → Except Failure β} (hx : OnlyMisconfigured x)
    (hk : ∀ a, OnlyMisconfigured (k a)) : OnlyMisconfigured (x >>= k) := by
  cases x with
  | error f =>
    intro f' h
    cases h
    exact hx f rfl
  | ok a => exact hk a

end OnlyMisconfigured

/-! ## Texts -/

/-- The scheme in front of a node. -/
def Protocol.opening : Option Protocol → List Char
  | none => []
  | some .http => "http://".toList
  | some .https => "https://".toList

namespace NodeText

/-- The digits of a port behind a colon. -/
def portText : Option (List Char) → List Char
  | none => []
  | some digits => ':' :: digits

/-- The text of the parts. -/
def written (n : NodeText) : List Char :=
  Protocol.opening n.protocol ++ (n.host ++ (portText n.port ++ portText n.adminPort))

/-- ASCII digits, at least one, of a value that sixteen bits hold. -/
structure IsPort (digits : List Char) : Prop where
  nonempty : digits ≠ []
  isDigit : ∀ d ∈ digits, d.isDigit = true
  le : Nat.ofDigitChars 10 digits 0 ≤ 65535

/-- The parts that a node can have: a host without colons, and no port, one port or two. -/
structure Valid (n : NodeText) : Prop where
  named : n.host ≠ []
  colonless : ':' ∉ n.host
  inOrder : n.port = none → n.adminPort = none
  port : ∀ digits ∈ n.port, IsPort digits
  adminPort : ∀ digits ∈ n.adminPort, IsPort digits

/-- The port that digits spell. -/
def portOf (digits : List Char) : UInt16 := UInt16.ofNat (Nat.ofDigitChars 10 digits 0)

/-- The endpoint of the parts under a protocol: the usual port of the protocol where none is written,
    and the port for an admin port that is not written. -/
def endpoint (p : Protocol) (n : NodeText) : Endpoint :=
  let port := (n.port.map portOf).getD p.defaultPort
  ⟨String.ofList n.host, some port, some ((n.adminPort.map portOf).getD port)⟩

end NodeText

/-! ## Ports -/

open NodeText (IsPort portOf)

namespace NodeText

theorem isPort_decimal (p : UInt16) : IsPort (Text.decimal p.toNat) where
  nonempty := Nat.toDigits_ne_nil
  isDigit := fun _ hd => Text.isDigit_of_mem_decimal hd
  le := by
    have hlt := p.toNat_lt
    rw [Text.decimal, Nat.ofDigitChars_ten_toDigits]
    omega

theorem portOf_decimal (p : UInt16) : portOf (Text.decimal p.toNat) = p := by
  rw [portOf, Text.decimal, Nat.ofDigitChars_ten_toDigits, UInt16.ofNat_toNat]

end NodeText

namespace Node

theorem port?_of_isPort {digits : List Char} (h : IsPort digits) :
    port? digits = some (portOf digits) := by
  have hlt : Nat.ofDigitChars 10 digits 0 < 65536 := Nat.lt_succ_of_le h.le
  rw [port?, Text.number?_of_isDigit h.nonempty h.isDigit, Option.bind_some, if_pos hlt]
  rfl

/-- Only such digits are read as a port. -/
theorem isPort_of_port? {digits : List Char} {p : UInt16} (h : port? digits = some p) :
    IsPort digits := by
  obtain ⟨n, hn, hp⟩ := Option.bind_eq_some_iff.mp h
  have hdigits : ∀ d ∈ digits, d.isDigit = true := by
    intro d hd
    by_contra hno
    have hnone := Text.number?_eq_none (Text.digit?_eq_none (Bool.eq_false_iff.mpr hno)) hd
    rw [hnone] at hn
    cases hn
  have hne : digits ≠ [] := by
    rintro rfl
    cases hn
  rw [Text.number?_of_isDigit hne hdigits] at hn
  cases hn
  refine ⟨hne, hdigits, ?_⟩
  split at hp
  · omega
  · cases hp

/-- A port is taken as it is written, if it can be, and else it is the other one. -/
theorem portOr_eq_ok_iff {node : String} {other port : UInt16} {digits : Option (List Char)} :
    portOr node other digits = .ok port ↔
      (∀ ds ∈ digits, IsPort ds) ∧ port = (digits.map portOf).getD other := by
  cases digits with
  | none =>
    rw [portOr, Except.ok.injEq]
    refine ⟨fun h => ⟨?_, h.symm⟩, fun h => h.2.symm⟩
    intro ds hds
    cases hds
  | some ds =>
    rw [portOr]
    cases hport : port? ds with
    | none =>
      constructor
      · intro h
        cases h
      · rintro ⟨hds, -⟩
        rw [port?_of_isPort (hds ds rfl)] at hport
        cases hport
    | some p =>
      have hds := isPort_of_port? hport
      rw [port?_of_isPort hds] at hport
      cases hport
      rw [Except.ok.injEq]
      refine ⟨fun h => ⟨?_, h.symm⟩, fun h => h.2.symm⟩
      intro d hd
      cases hd
      exact hds

end Node

/-! ## Reading the parts -/

namespace NodeText

theorem isDecimalDigit_of_isDigit {c : Char} (h : c.isDigit = true) :
    Text.isDecimalDigit c = true := by
  obtain ⟨hlow, hhigh⟩ := Char.isDigit_iff_toNat.mp h
  exact Text.isDecimalDigit_of_ascii hlow hhigh

theorem isDecimalDigit_colon : Text.isDecimalDigit ':' = false := by decide

theorem portText_head (digits : Option (List Char)) : ∀ c ∈ (portText digits).head?, c = ':' := by
  intro c hc
  cases digits with
  | none => cases hc
  | some ds =>
    cases hc
    rfl

/-- The first colon is the end of the host. -/
theorem span_host {host ports : List Char} (hcolon : ':' ∉ host)
    (hstart : ∀ c ∈ ports.head?, c = ':') :
    (host ++ ports).takeWhile (· != ':') = host ∧ (host ++ ports).dropWhile (· != ':') = ports := by
  refine Text.span_append (fun c hc => ?_) (fun c hc => ?_)
  · rw [bne_iff_ne]
    rintro rfl
    exact hcolon hc
  · rw [hstart c hc]
    rfl

/-- A text whose first colon is not followed by a slash has no scheme in front. -/
theorem scheme_eq_none {host ports : List Char} (hcolon : ':' ∉ host)
    (hstart : ∀ c ∈ ports.head?, c = ':') (hslash : ∀ r, ports ≠ ':' :: '/' :: r) :
    scheme (host ++ ports) = (none, host ++ ports) := by
  have hrest := (span_host hcolon hstart).2
  unfold scheme
  split
  · rename_i r htext
    rw [htext] at hrest
    exact absurd hrest.symm (hslash _)
  · rename_i r htext
    rw [htext] at hrest
    exact absurd hrest.symm (hslash _)
  · rfl

/-- What is found in front of a text is a scheme, and the rest stands behind it. -/
theorem opening_scheme (s : List Char) : Protocol.opening (scheme s).1 ++ (scheme s).2 = s := by
  unfold scheme
  split <;> rfl

theorem scheme_opening (p : Protocol) (s : List Char) :
    scheme (Protocol.opening (some p) ++ s) = (some p, s) := by
  cases p <;> rfl

/-- Digits are taken up to the next colon. -/
theorem span_digits {digits rest : List Char} (h : ∀ d ∈ digits, d.isDigit = true)
    (hstart : ∀ c ∈ rest.head?, c = ':') :
    (digits ++ rest).takeWhile Text.isDecimalDigit = digits ∧
      (digits ++ rest).dropWhile Text.isDecimalDigit = rest := by
  refine Text.span_append (fun d hd => isDecimalDigit_of_isDigit (h d hd)) (fun c hc => ?_)
  rw [hstart c hc]
  exact isDecimalDigit_colon

theorem lastPort?_of_isPort {digits : List Char} (h : IsPort digits) :
    lastPort? (':' :: digits) = some digits := by
  have hfull : digits.isEmpty = false := by simpa using h.nonempty
  have hall : digits.all Text.isDecimalDigit = true :=
    List.all_eq_true.mpr fun d hd => isDecimalDigit_of_isDigit (h.isDigit d hd)
  rw [lastPort?, hfull, hall]
  rfl

/-- The ports that are written are found. -/
theorem ports?_written {n : NodeText} (h : n.Valid) :
    ports? (portText n.port ++ portText n.adminPort) = some (n.port, n.adminPort) := by
  cases hport : n.port with
  | none =>
    rw [h.inOrder hport]
    rfl
  | some digits =>
    have hdigits := h.port digits hport
    have hfull : digits.isEmpty = false := by simpa using hdigits.nonempty
    obtain ⟨htake, hdrop⟩ := span_digits hdigits.isDigit (portText_head n.adminPort)
    show ports? (':' :: (digits ++ portText n.adminPort)) = _
    simp only [ports?, htake, hdrop, hfull, Bool.false_eq_true, if_false]
    cases hadmin : n.adminPort with
    | none => rfl
    | some ds =>
      show (lastPort? (':' :: ds)).map _ = _
      rw [lastPort?_of_isPort (h.adminPort ds hadmin)]
      rfl

theorem eq_of_lastPort? {s digits : List Char} (h : lastPort? s = some digits) :
    s = ':' :: digits := by
  unfold lastPort? at h
  split at h
  · split at h
    · cases h
      rfl
    · cases h
  · cases h

/-- The ports that are found are all that was left, and an admin port stands behind a port only. -/
theorem eq_of_ports? {s : List Char} {port adminPort : Option (List Char)}
    (h : ports? s = some (port, adminPort)) :
    s = portText port ++ portText adminPort ∧ (port = none → adminPort = none) := by
  unfold ports? at h
  split at h
  · cases h
    exact ⟨rfl, fun _ => rfl⟩
  · rename_i r
    have hsplit := List.takeWhile_append_dropWhile (p := Text.isDecimalDigit) (l := r)
    simp only [] at h
    split at h
    · cases h
    · split at h
      · rename_i hrest
        cases h
        rw [hrest, List.append_nil] at hsplit
        refine ⟨?_, fun hno => by cases hno⟩
        rw [portText, portText, List.append_nil, hsplit]
      · obtain ⟨ds, hlast, hpair⟩ := Option.map_eq_some_iff.mp h
        cases hpair
        refine ⟨?_, fun hno => by cases hno⟩
        rw [portText, portText, ← eq_of_lastPort? hlast, List.cons_append, hsplit]
  · cases h

theorem ports_head {n : NodeText} (h : n.Valid) :
    ∀ c ∈ (portText n.port ++ portText n.adminPort).head?, c = ':' := by
  cases hport : n.port with
  | none =>
    rw [h.inOrder hport]
    exact portText_head none
  | some digits => exact portText_head (some digits)

/-- Behind the first colon stands a digit. -/
theorem ports_ne {n : NodeText} (h : n.Valid) (r : List Char) :
    portText n.port ++ portText n.adminPort ≠ ':' :: '/' :: r := by
  intro hr
  cases hport : n.port with
  | none =>
    rw [hport, h.inOrder hport] at hr
    cases hr
  | some digits =>
    obtain ⟨d, ds, rfl⟩ := List.exists_cons_of_ne_nil (h.port digits hport).nonempty
    have hd := (h.port _ hport).isDigit d List.mem_cons_self
    rw [hport] at hr
    cases hr
    cases hd

/-- What stands between a scheme and the ports is the host, if it is anything. -/
theorem parse?_append (protocol : Option Protocol) {host : List Char} (hcolon : ':' ∉ host)
    {n : NodeText} (h : n.Valid) :
    parse? (Protocol.opening protocol ++ (host ++ (portText n.port ++ portText n.adminPort))) =
      if host.isEmpty then none else some ⟨protocol, host, n.port, n.adminPort⟩ := by
  have hscheme :
      scheme (Protocol.opening protocol ++ (host ++ (portText n.port ++ portText n.adminPort))) =
        (protocol, host ++ (portText n.port ++ portText n.adminPort)) := by
    cases protocol with
    | none =>
      show scheme (host ++ _) = _
      exact scheme_eq_none hcolon (ports_head h) (ports_ne h)
    | some p => exact scheme_opening p _
  obtain ⟨hhost, hports⟩ := span_host hcolon (ports_head h)
  rw [parse?, hscheme]
  simp only [hhost, hports, ports?_written h]
  rfl

/-- **A text that was put together is taken apart again.** -/
theorem parse?_written {n : NodeText} (h : n.Valid) : parse? n.written = some n := by
  have hfull : ¬ n.host.isEmpty = true := by simpa using h.named
  rw [written, parse?_append n.protocol h.colonless h, if_neg hfull]

/-- Up to the first colon stands the host. -/
theorem host_of_parse? {s : List Char} {parts : NodeText} (h : parse? s = some parts) :
    parts.host ≠ [] ∧ ':' ∉ parts.host := by
  unfold parse? at h
  simp only [] at h
  split at h
  · cases h
  · rename_i hne
    obtain ⟨ports, -, rfl⟩ := Option.map_eq_some_iff.mp h
    refine ⟨by simpa using hne, ?_⟩
    intro hcolon
    have hno := List.mem_takeWhile_imp hcolon
    simp at hno

/-- **Only texts that were put together are taken apart.** -/
theorem written_of_parse? {s : List Char} {n : NodeText} (h : parse? s = some n) :
    n.written = s ∧ (n.port = none → n.adminPort = none) := by
  have hopening := opening_scheme s
  unfold parse? at h
  simp only [] at h
  split at h
  · cases h
  · obtain ⟨ports, hports, rfl⟩ := Option.map_eq_some_iff.mp h
    obtain ⟨hrest, hinOrder⟩ := eq_of_ports? hports
    refine ⟨?_, hinOrder⟩
    rw [written, ← hrest, List.takeWhile_append_dropWhile, hopening]

end NodeText

/-! ## Reading nodes -/

namespace Node

theorem finish_eq_ok_iff {node : String} {parts : NodeText} {p q : Protocol} {e : Endpoint} :
    read.finish node parts p = .ok (e, q) ↔
      (∀ ds ∈ parts.port, IsPort ds) ∧ (∀ ds ∈ parts.adminPort, IsPort ds) ∧
        e = parts.endpoint p ∧ q = p := by
  constructor
  · intro h
    obtain ⟨port, hport, h⟩ := ok_of_bind h
    obtain ⟨admin, hadmin, h⟩ := ok_of_bind h
    obtain ⟨hisPort, rfl⟩ := portOr_eq_ok_iff.mp hport
    obtain ⟨hisAdmin, rfl⟩ := portOr_eq_ok_iff.mp hadmin
    cases h
    exact ⟨hisPort, hisAdmin, rfl, rfl⟩
  · rintro ⟨hisPort, hisAdmin, rfl, rfl⟩
    have hport : portOr node q.defaultPort parts.port =
        .ok ((parts.port.map portOf).getD q.defaultPort) := portOr_eq_ok_iff.mpr ⟨hisPort, rfl⟩
    have hadmin : ∀ other, portOr node other parts.adminPort =
        .ok ((parts.adminPort.map portOf).getD other) :=
      fun _ => portOr_eq_ok_iff.mpr ⟨hisAdmin, rfl⟩
    rw [read.finish, hport]
    show (portOr _ _ _ >>= _) = _
    rw [hadmin]
    rfl

/-- The protocol of a node in a group: that of the nodes before it, or else its own, or plain HTTP. -/
def groupWith (group : Option Protocol) (n : NodeText) : Protocol :=
  group.getD (n.protocol.getD .http)

/-- Parts without a protocol of their own, or with that of the group, are those of a node. -/
theorem read_of_agrees {group : Option Protocol} {raw : String} {parts : NodeText}
    (hparts : NodeText.parse? (Text.trim raw.toList) = some parts)
    (h : ∀ q ∈ parts.protocol, q = groupWith group parts) :
    read group raw = read.finish (String.ofList (Text.trim raw.toList)) parts
      (groupWith group parts) := by
  obtain ⟨protocol, host, port, adminPort⟩ := parts
  unfold read
  rw [hparts]
  cases group with
  | none => cases protocol <;> rfl
  | some g =>
    cases protocol with
    | none => rfl
    | some q =>
      have hq : q = g := h q rfl
      exact if_pos hq.symm

theorem read_of_disagrees {group : Option Protocol} {raw : String} {parts : NodeText}
    (hparts : NodeText.parse? (Text.trim raw.toList) = some parts)
    (h : ¬ ∀ q ∈ parts.protocol, q = groupWith group parts) :
    ∃ f, read group raw = .error f := by
  obtain ⟨protocol, host, port, adminPort⟩ := parts
  unfold read
  rw [hparts]
  cases protocol with
  | none => exact absurd (fun q hq => by cases hq) h
  | some q =>
    cases group with
    | none => exact absurd (fun r hr => by cases hr; rfl) h
    | some g =>
      have hq : ¬ g = q := fun hg => h fun r hr => by cases hr; exact hg.symm
      exact ⟨_, if_neg hq⟩

/-- **Which texts are read as a node.** -/
theorem read_eq_ok_iff {group : Option Protocol} {raw : String} {e : Endpoint} {p : Protocol} :
    read group raw = .ok (e, p) ↔
      ∃ n : NodeText, n.Valid ∧ Text.trim raw.toList = n.written ∧
        p = groupWith group n ∧ (∀ q ∈ n.protocol, q = p) ∧ e = n.endpoint p := by
  constructor
  · intro h
    -- What was read is the written form of the parts that were found.
    cases hparts : NodeText.parse? (Text.trim raw.toList) with
    | none =>
      unfold read at h
      rw [hparts] at h
      cases h
    | some parts =>
      obtain ⟨hwritten, hinOrder⟩ := NodeText.written_of_parse? hparts
      obtain ⟨hnamed, hcolonless⟩ := NodeText.host_of_parse? hparts
      by_cases hagrees : ∀ q ∈ parts.protocol, q = groupWith group parts
      · rw [read_of_agrees hparts hagrees] at h
        obtain ⟨hport, hadmin, rfl, rfl⟩ := finish_eq_ok_iff.mp h
        have hvalid : parts.Valid := ⟨hnamed, hcolonless, hinOrder, hport, hadmin⟩
        exact ⟨parts, hvalid, hwritten.symm, rfl, hagrees, rfl⟩
      · obtain ⟨f, hf⟩ := read_of_disagrees hparts hagrees
        rw [hf] at h
        cases h
  · rintro ⟨n, hn, htext, rfl, hagrees, rfl⟩
    have hparts := NodeText.parse?_written hn
    rw [← htext] at hparts
    rw [read_of_agrees hparts hagrees]
    exact finish_eq_ok_iff.mpr ⟨hn.port, hn.adminPort, rfl, rfl⟩

/-- A port that cannot be read is a matter of configuration. -/
theorem onlyMisconfigured_portOr (node : String) (other : UInt16) (digits : Option (List Char)) :
    OnlyMisconfigured (portOr node other digits) := by
  unfold portOr
  split
  · exact .ok
  · split
    · exact .ok
    · exact .fail _

theorem onlyMisconfigured_read (group : Option Protocol) (raw : String) :
    OnlyMisconfigured (read group raw) := by
  have hfinish : ∀ (node : String) (parts : NodeText) (p : Protocol),
      OnlyMisconfigured (read.finish node parts p) := fun node parts p =>
    (onlyMisconfigured_portOr _ _ _).bind fun _ => (onlyMisconfigured_portOr _ _ _).bind fun _ => .ok
  unfold read
  simp only []
  split
  · exact .fail _
  · split
    · split
      · exact hfinish _ _ _
      · exact .fail _
    · exact hfinish _ _ _
    · exact hfinish _ _ _
    · exact hfinish _ _ _

/-! ## Reading lists of nodes -/

/-- The texts, without blanks around them, are those of the nodes. -/
structure Spelled (raw : List String) (ns : List NodeText) : Prop where
  texts : raw.map (fun r => Text.trim r.toList) = ns.map NodeText.written
  valid : ∀ n ∈ ns, n.Valid

/-- The protocol of a list of nodes: that of the nodes before them, or else that of the first of them, or
    plain HTTP if it has none. -/
def groupAfter (group : Option Protocol) (ns : List NodeText) : Option Protocol :=
  group.or (ns.head?.map fun n => n.protocol.getD .http)

theorem groupAfter_cons (group : Option Protocol) (n : NodeText) (ns : List NodeText) :
    groupAfter group (n :: ns) = some (groupWith group n) := by
  cases group <;> rfl

theorem groupAfter_append (group : Option Protocol) (ms ns : List NodeText) :
    groupAfter (groupAfter group ms) ns = groupAfter group (ms ++ ns) := by
  cases ms with
  | nil => cases group <;> rfl
  | cons m ms => rw [groupAfter_cons, List.cons_append, groupAfter_cons]; rfl

theorem spelled_cons {r : String} {raw : List String} {n : NodeText} {ns : List NodeText} :
    Spelled (r :: raw) (n :: ns) ↔
      (n.Valid ∧ Text.trim r.toList = n.written) ∧ Spelled raw ns := by
  constructor
  · rintro ⟨htexts, hvalid⟩
    obtain ⟨htext, htexts⟩ := List.cons.inj htexts
    obtain ⟨hn, hns⟩ := List.forall_mem_cons.mp hvalid
    exact ⟨⟨hn, htext⟩, htexts, hns⟩
  · rintro ⟨⟨hn, htext⟩, htexts, hns⟩
    refine ⟨?_, List.forall_mem_cons.mpr ⟨hn, hns⟩⟩
    rw [List.map_cons, List.map_cons, htext, htexts]

/-- **Which texts are read as nodes behind others.** -/
theorem readOnto_eq_ok_iff : ∀ {raw : List String} {nodes nodes' : List Endpoint}
    {group group' : Option Protocol},
    readOnto nodes group raw = .ok (nodes', group') ↔
      ∃ ns, Spelled raw ns ∧ group' = groupAfter group ns ∧
        (∀ n ∈ ns, ∀ q ∈ n.protocol, group' = some q) ∧
        nodes' = (ns.map (NodeText.endpoint (group'.getD .http))).foldl Endpoint.insertNew nodes
  | [], nodes, nodes', group, group' => by
    constructor
    · intro h
      cases h
      exact ⟨[], ⟨rfl, fun n hn => absurd hn List.not_mem_nil⟩, Option.or_none.symm,
        fun n hn => absurd hn List.not_mem_nil, rfl⟩
    · rintro ⟨ns, hns, rfl, -, rfl⟩
      obtain rfl : ns = [] := List.map_eq_nil_iff.mp hns.texts.symm
      rw [groupAfter, List.head?_nil, Option.map_none, Option.or_none]
      rfl
  | r :: raw, nodes, nodes', group, group' => by
    constructor
    · intro h
      cases hread : read group r with
      | error f =>
        rw [readOnto, hread] at h
        cases h
      | ok x =>
        obtain ⟨e, p⟩ := x
        -- The first node settles the protocol, so the nodes behind it are read within a group.
        rw [readOnto, hread] at h
        obtain ⟨n, hn, htext, rfl, hagrees, rfl⟩ := read_eq_ok_iff.mp hread
        obtain ⟨ns, hns, hgroup, hagree, rfl⟩ := readOnto_eq_ok_iff.mp h
        have hsome : group' = some (groupWith group n) := hgroup
        refine ⟨n :: ns, spelled_cons.mpr ⟨⟨hn, htext⟩, hns⟩, ?_, ?_, ?_⟩
        · rw [groupAfter_cons, hsome]
        · refine List.forall_mem_cons.mpr ⟨fun q hq => ?_, hagree⟩
          rw [hsome, hagrees q hq]
        · rw [List.map_cons, List.foldl_cons, hsome]
          rfl
    · rintro ⟨ns, hns, rfl, hagree, rfl⟩
      cases ns with
      | nil => cases hns.texts
      | cons n ns =>
        obtain ⟨⟨hn, htext⟩, hns⟩ := spelled_cons.mp hns
        obtain ⟨hfirst, hrest⟩ := List.forall_mem_cons.mp hagree
        rw [groupAfter_cons] at hfirst hrest ⊢
        have hown : ∀ q ∈ n.protocol, q = groupWith group n :=
          fun q hq => (Option.some.inj (hfirst q hq)).symm
        have hread : read group r = .ok (n.endpoint (groupWith group n), groupWith group n) :=
          read_eq_ok_iff.mpr ⟨n, hn, htext, rfl, hown, rfl⟩
        rw [readOnto, hread]
        exact readOnto_eq_ok_iff.mpr ⟨ns, hns, rfl, hrest, rfl⟩

theorem onlyMisconfigured_readOnto : ∀ (raw : List String) (nodes : List Endpoint)
    (group : Option Protocol), OnlyMisconfigured (readOnto nodes group raw)
  | [], _, _ => .ok
  | r :: raw, nodes, group => by
    unfold readOnto
    cases hread : read group r with
    | error f =>
      intro f' h
      cases h
      exact onlyMisconfigured_read group r f hread
    | ok x => exact onlyMisconfigured_readOnto raw _ _

end Node

/-! ## Configurations of node texts -/

namespace Configuration

open Node (Spelled groupAfter)

/-- The protocol of all nodes: that of the first, or plain HTTP if it has none or there are no nodes. -/
def groupOf (ns : List NodeText) : Protocol := (ns.head?.bind (·.protocol)).getD .http

/-- The texts of the first and the other nodes spell these parts, and no node has another protocol than
    the first. -/
structure Described (primary secondary : List String) (ps ss : List NodeText) : Prop where
  primary : Spelled primary ps
  secondary : Spelled secondary ss
  agree : ∀ n ∈ ps ++ ss, ∀ q ∈ n.protocol, q = groupOf (ps ++ ss)

theorem groupAfter_none (ns : List NodeText) : (groupAfter none ns).getD .http = groupOf ns := by
  cases ns <;> rfl

theorem groupAfter_none_of_mem {n : NodeText} {ns : List NodeText} (h : n ∈ ns) :
    groupAfter none ns = some (groupOf ns) := by
  cases ns with
  | nil => cases h
  | cons m ns => rw [Node.groupAfter_cons]; rfl

theorem groupOf_append_of_mem {n : NodeText} {ps : List NodeText} (h : n ∈ ps)
    (ss : List NodeText) : groupOf (ps ++ ss) = groupOf ps := by
  cases ps with
  | nil => cases h
  | cons m ps => rfl

/-- The nodes behind the first ones do not change what these are. -/
theorem map_endpoint_groupOf (ps ss : List NodeText) :
    ps.map (NodeText.endpoint (groupOf (ps ++ ss))) = ps.map (NodeText.endpoint (groupOf ps)) :=
  List.map_congr_left fun n hn => by rw [groupOf_append_of_mem hn]

/-- **Texts that spell nodes make a configuration of these nodes without repetitions.** -/
theorem new_of_described {shortName : Option String} {primary secondary : List String}
    {ps ss : List NodeText} (h : Described primary secondary ps ss) :
    new shortName primary secondary = .ok (ofNodes shortName (groupOf (ps ++ ss))
      (Endpoint.distinct (ps.map (NodeText.endpoint (groupOf (ps ++ ss)))))
      (Endpoint.distinct (ss.map (NodeText.endpoint (groupOf (ps ++ ss)))))) := by
  have hfirst : Node.readGroup none primary =
      .ok (Endpoint.distinct (ps.map (NodeText.endpoint (groupOf (ps ++ ss)))),
        groupAfter none ps) := by
    refine Node.readOnto_eq_ok_iff.mpr ⟨ps, h.primary, rfl, fun n hn q hq => ?_, ?_⟩
    · rw [groupAfter_none_of_mem hn, ← groupOf_append_of_mem hn ss,
        h.agree n (List.mem_append_left ss hn) q hq]
    · rw [groupAfter_none, map_endpoint_groupOf]
      rfl
  have hother : Node.readGroup (groupAfter none ps) secondary =
      .ok (Endpoint.distinct (ss.map (NodeText.endpoint (groupOf (ps ++ ss)))),
        groupAfter none (ps ++ ss)) := by
    refine Node.readOnto_eq_ok_iff.mpr ⟨ss, h.secondary, ?_, fun n hn q hq => ?_, ?_⟩
    · rw [Node.groupAfter_append]
    · have hn' := List.mem_append_right ps hn
      rw [groupAfter_none_of_mem hn', h.agree n hn' q hq]
    · rw [groupAfter_none]
      rfl
  rw [new, hfirst]
  show (Node.readGroup (groupAfter none ps) secondary >>= _) = _
  rw [hother, ← groupAfter_none (ps ++ ss)]
  rfl

/-- Only texts that spell nodes make a configuration. -/
theorem described_of_new {shortName : Option String} {primary secondary : List String}
    {c : Configuration} (h : new shortName primary secondary = .ok c) :
    ∃ ps ss, Described primary secondary ps ss := by
  obtain ⟨⟨first, group⟩, hfirst, h⟩ := ok_of_bind h
  obtain ⟨⟨other, group'⟩, hother, -⟩ := ok_of_bind h
  obtain ⟨ps, hps, rfl, hfirst, -⟩ := Node.readOnto_eq_ok_iff.mp hfirst
  obtain ⟨ss, hss, hgroup, hother, -⟩ := Node.readOnto_eq_ok_iff.mp hother
  rw [Node.groupAfter_append] at hgroup
  refine ⟨ps, ss, hps, hss, fun n hn q hq => ?_⟩
  have hagree : groupAfter none (ps ++ ss) = some q := by
    rcases List.mem_append.mp hn with hn | hn
    · rw [groupAfter_none_of_mem (List.mem_append_left ss hn), groupOf_append_of_mem hn,
        ← groupAfter_none_of_mem hn]
      exact hfirst n hn q hq
    · rw [← hgroup]
      exact hother n hn q hq
  rw [groupAfter_none_of_mem hn] at hagree
  exact (Option.some.inj hagree).symm

theorem onlyMisconfigured_new (shortName : Option String) (primary secondary : List String) :
    OnlyMisconfigured (new shortName primary secondary) :=
  (Node.onlyMisconfigured_readOnto _ _ _).bind fun _ =>
    (Node.onlyMisconfigured_readOnto _ _ _).bind fun _ => .ok

/-- **Which node texts make a configuration, and which one.**  The texts must spell nodes of one
    protocol, and it is a matter of configuration if they do not.  If they do, the configuration has,
    of the nodes that they spell under the protocol of the first, those that name their place first
    within their list. -/
theorem new_reads (shortName : Option String) (primary secondary : List String) :
    ((∃ c, new shortName primary secondary = .ok c) ↔
        ∃ ps ss, Described primary secondary ps ss) ∧
      (∀ f, new shortName primary secondary = .error f → ∃ m, f = .configuration m) ∧
      ∀ ps ss, Described primary secondary ps ss → ∃ first other : List Endpoint,
        new shortName primary secondary = .ok (ofNodes shortName (groupOf (ps ++ ss)) first other) ∧
          Endpoint.Firsts (ps.map (NodeText.endpoint (groupOf (ps ++ ss)))) first ∧
          Endpoint.Firsts (ss.map (NodeText.endpoint (groupOf (ps ++ ss)))) other := by
  refine ⟨⟨?_, ?_⟩, onlyMisconfigured_new shortName primary secondary, ?_⟩
  · rintro ⟨c, hc⟩
    exact described_of_new hc
  · rintro ⟨ps, ss, h⟩
    exact ⟨_, new_of_described h⟩
  · intro ps ss h
    exact ⟨_, _, new_of_described h, Endpoint.firsts_distinct _, Endpoint.firsts_distinct _⟩

end Configuration

end Failover
