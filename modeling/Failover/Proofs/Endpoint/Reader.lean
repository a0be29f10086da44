import Failover.Endpoint.Reader
import Failover.Proofs.Configuration.Acceptance
import Failover.Proofs.Net.Address
import Mathlib.Data.List.Basic
/-!
# Endpoints as they are written

Which texts name an endpoint, and which endpoints are read back from their own text.

* `Endpoint.Numeral` : how a port is written.  `Text.port?_eq_some_iff`: what is read as one;
* `Endpoint.Spells` : how a text has host and port side by side.  `Endpoint.split?_eq_some_iff`: texts
  are taken apart in these ways and in no other;
* `Endpoint.Documented`, `Endpoint.Stray` : the forms with a name or an address for the host, and the
  one form besides.  `Endpoint.parse_documented_iff`: which texts are read as which.
  `Endpoint.parse_stray`: a name between brackets;
* `Endpoint.Readable` : the endpoints whose text names them.  `Endpoint.parse_text_iff`: these and no
  others are read back.
-/

set_option autoImplicit false

namespace Failover

open NodeText (IsPort portOf portText)

/-! ## Ports -/

/-- Decimal digits of a port, with or without a plus sign in front. -/
inductive Endpoint.Numeral : List Char → UInt16 → Prop where
  | plain {digits : List Char} (h : IsPort digits) : Numeral digits (portOf digits)
  | signed {digits : List Char} (h : IsPort digits) : Numeral ('+' :: digits) (portOf digits)

open Endpoint (Numeral)

theorem Node.port?_eq_some_iff {digits : List Char} {p : UInt16} :
    port? digits = some p ↔ IsPort digits ∧ p = portOf digits := by
  constructor
  · intro h
    have hdigits := isPort_of_port? h
    rw [port?_of_isPort hdigits] at h
    exact ⟨hdigits, (Option.some.inj h).symm⟩
  · rintro ⟨hdigits, rfl⟩
    exact port?_of_isPort hdigits

theorem Text.port?_eq_some_iff {s : List Char} {p : UInt16} : port? s = some p ↔ Numeral s p := by
  unfold port?
  simp only []
  split
  · rename_i r
    rw [← Node.port?, Node.port?_eq_some_iff]
    constructor
    · rintro ⟨h, rfl⟩
      exact .signed h
    · intro h
      cases h with
      | plain h => exact absurd (h.isDigit '+' List.mem_cons_self) (by decide)
      | signed h => exact ⟨h, rfl⟩
  · rename_i hsign
    rw [← Node.port?, Node.port?_eq_some_iff]
    constructor
    · rintro ⟨h, rfl⟩
      exact .plain h
    · intro h
      cases h with
      | plain h => exact ⟨h, rfl⟩
      | signed h => exact absurd rfl (hsign _)

namespace Endpoint

theorem numeral_decimal (p : UInt16) : Numeral (Text.decimal p.toNat) p := by
  have h := Numeral.plain (NodeText.isPort_decimal p)
  rwa [NodeText.portOf_decimal] at h

theorem Numeral.colon_not_mem {s : List Char} {p : UInt16} (h : Numeral s p) : ':' ∉ s := by
  cases h with
  | plain h => exact fun hin => absurd (h.isDigit _ hin) (by decide)
  | signed h =>
    intro hin
    rcases List.mem_cons.mp hin with hsign | hin
    · exact absurd hsign (by decide)
    · exact absurd (h.isDigit _ hin) (by decide)

/-! ## Host and port side by side -/

/-- The text has the host and, if there is one, the port behind it.  The host is an IPv6 address, or any text
    between brackets, or a text without colons that does not start with a bracket. -/
inductive Spells : List Char → List Char → Option (List Char) → Prop where
  | address {s : List Char} (h : (Ipv6.parse? s).isSome) : Spells s s none
  | bracketed {s : List Char} (port : Option (List Char)) (h : ']' ∉ s) :
    Spells ('[' :: (s ++ ']' :: portText port)) s port
  | named {s : List Char} (port : Option (List Char)) (bare : s.head? ≠ some '[')
    (colonless : ':' ∉ s) (h : ¬ (Ipv6.parse? (s ++ portText port)).isSome) :
    Spells (s ++ portText port) s port

theorem split?_bare {s : List Char} (h : s.head? ≠ some '[') : split? s =
    if (Ipv6.parse? s).isSome then some (s, none)
    else match Text.cut ':' s with
      | some (host, port) => some (host, some port)
      | none => some (s, none) := by
  unfold split?
  split
  · exact absurd rfl h
  · rfl

theorem head_of_address {s : List Char} (h : (Ipv6.parse? s).isSome) : s.head? ≠ some '[' := by
  intro hopen
  have hcolon := Ipv6.eq_colon_of_delimits h (List.mem_of_mem_head? hopen) (by decide)
  exact absurd hcolon (by decide)

/-- **Texts are taken apart in the ways in which they are put together.** -/
theorem split?_eq_some_iff {s host : List Char} {port : Option (List Char)} :
    split? s = some (host, port) ↔ Spells s host port := by
  constructor
  · intro h
    by_cases hopen : s.head? = some '['
    · obtain ⟨r, rfl⟩ : ∃ r, s = '[' :: r := by
        cases s with
        | nil => cases hopen
        | cons c r =>
          cases hopen
          exact ⟨r, rfl⟩
      unfold split? at h
      simp only [] at h
      split at h
      · cases h
      · rename_i hcut
        cases h
        obtain ⟨rfl, hclose⟩ := Text.eq_of_cut hcut
        exact .bracketed none hclose
      · rename_i hcut
        cases h
        obtain ⟨rfl, hclose⟩ := Text.eq_of_cut hcut
        exact .bracketed (some _) hclose
      · cases h
    · rw [split?_bare hopen] at h
      split at h
      · rename_i haddress
        cases h
        exact .address haddress
      · rename_i haddress
        split at h
        · rename_i hcut
          cases h
          obtain ⟨rfl, hcolon⟩ := Text.eq_of_cut hcut
          refine .named (some _) ?_ hcolon haddress
          cases host with
          | nil => exact fun h => by cases h
          | cons c r => exact hopen
        · rename_i hcut
          cases h
          have hcolon := Text.cut_eq_none_iff.mp hcut
          rw [← List.append_nil s] at haddress
          have hspells := Spells.named none hopen hcolon haddress
          rwa [portText, List.append_nil] at hspells
  · intro h
    cases h with
    | address haddress => rw [split?_bare (head_of_address haddress), if_pos haddress]
    | bracketed port hclose =>
      unfold split?
      simp only [Text.cut_append _ hclose]
      cases port <;> rfl
    | named port hopen hcolon haddress =>
      cases port with
      | none =>
        rw [portText, List.append_nil] at haddress ⊢
        rw [split?_bare hopen, if_neg haddress, Text.cut_eq_none_iff.mpr hcolon]
      | some p =>
        have hopen' : (host ++ portText (some p)).head? ≠ some '[' := by
          cases host with
          | nil => exact fun h => by cases h
          | cons c r => exact hopen
        rw [split?_bare hopen', if_neg haddress, portText, Text.cut_append _ hcolon]

/-! ## Forms -/

/-- A name, or an IPv6 address that is bare or between brackets, and the port if there is one. -/
inductive Documented : List Char → List Char → Option (List Char) → Prop where
  | address {s : List Char} (h : (Ipv6.parse? s).isSome) : Documented s s none
  | bracketed {s : List Char} (port : Option (List Char)) (h : (Ipv6.parse? s).isSome) :
    Documented ('[' :: (s ++ ']' :: portText port)) s port
  | named {s : List Char} (port : Option (List Char)) (filled : s ≠ [])
    (bare : s.head? ≠ some '[') (colonless : ':' ∉ s) : Documented (s ++ portText port) s port

/-- What is no address between brackets, and the port if there is one. -/
inductive Stray : List Char → List Char → Option (List Char) → Prop where
  | bracketed {s : List Char} (port : Option (List Char)) (filled : s ≠ []) (closed : ']' ∉ s)
    (h : ¬ (Ipv6.parse? s).isSome) : Stray ('[' :: (s ++ ']' :: portText port)) s port

/-- The text has a form for the endpoint: host and port are what the form has for them. -/
def Denotes (form : List Char → List Char → Option (List Char) → Prop) (s : List Char)
    (e : Endpoint) : Prop :=
  ∃ port, form s e.host.toList port ∧ Option.Rel Numeral port e.port ∧ e.ownAdminPort = none

theorem closing_not_mem {s : List Char} (h : (Ipv6.parse? s).isSome) : ']' ∉ s := fun hin =>
  absurd (Ipv6.eq_colon_of_delimits h hin (by decide)) (by decide)

/-- No text has forms of both kinds. -/
theorem Documented.not_stray {s host host' : List Char} {port port' : Option (List Char)}
    (h : Documented s host port) : ¬ Stray s host' port' := by
  intro hstray
  generalize hs : s = t at hstray
  cases hstray with
  | bracketed _ _ hclosed haddress' =>
    cases h with
    | address haddress =>
      rw [hs] at haddress
      exact head_of_address haddress rfl
    | bracketed _ haddress =>
      have hcut := Text.cut_append (portText port) (closing_not_mem haddress)
      rw [(List.cons.inj hs).2, Text.cut_append _ hclosed] at hcut
      exact haddress' ((Prod.mk.inj (Option.some.inj hcut)).1 ▸ haddress)
    | named _ hfilled hbare _ =>
      obtain ⟨c, r, rfl⟩ := List.exists_cons_of_ne_nil hfilled
      exact hbare (congrArg some (List.cons.inj hs).1)

/-- A name with a port behind it is no address: there are too few colons. -/
theorem not_address_of_named {s : List Char} {port : Option (List Char)} (hcolon : ':' ∉ s)
    (hport : ∀ digits ∈ port, ':' ∉ digits) : ¬ (Ipv6.parse? (s ++ portText port)).isSome := by
  intro haddress
  have hcount := Ipv6.two_le_count_colon haddress
  rw [List.count_append, List.count_eq_zero_of_not_mem hcolon] at hcount
  cases port with
  | none => exact absurd hcount (by decide)
  | some digits =>
    rw [portText, List.count_cons_self, List.count_eq_zero_of_not_mem (hport digits rfl)] at hcount
    exact absurd hcount (by decide)

theorem colon_not_mem_of_rel {port : Option (List Char)} {p : Option UInt16}
    (h : Option.Rel Numeral port p) : ∀ digits ∈ port, ':' ∉ digits := by
  intro digits hdigits
  cases h with
  | none => cases hdigits
  | some h =>
    cases hdigits
    exact h.colon_not_mem

/-- Host and port are of one of these forms, if there is a host and the port is a numeral. -/
theorem spells_iff {s host : List Char} {port : Option (List Char)} {p : Option UInt16}
    (hport : Option.Rel Numeral port p) :
    Spells s host port ∧ host ≠ [] ↔ Documented s host port ∨ Stray s host port := by
  constructor
  · rintro ⟨hspells, hfilled⟩
    cases hspells with
    | address h => exact Or.inl (.address h)
    | bracketed _ hclosed =>
      by_cases haddress : (Ipv6.parse? host).isSome
      · exact Or.inl (.bracketed port haddress)
      · exact Or.inr (.bracketed port hfilled hclosed haddress)
    | named _ hbare hcolon _ => exact Or.inl (.named port hfilled hbare hcolon)
  · have hne : ∀ {t : List Char}, (Ipv6.parse? t).isSome → t ≠ [] := fun h =>
      List.ne_nil_of_mem (Ipv6.colon_mem_of_parse? h)
    rintro (hform | hform)
    · cases hform with
      | address h => exact ⟨.address h, hne h⟩
      | bracketed _ h => exact ⟨.bracketed port (closing_not_mem h), hne h⟩
      | named _ hfilled hbare hcolon =>
        have haddress := not_address_of_named hcolon (colon_not_mem_of_rel hport)
        exact ⟨.named port hbare hcolon haddress, hfilled⟩
    · cases hform with
      | bracketed _ hfilled hclosed _ => exact ⟨.bracketed port hclosed, hfilled⟩

/-! ## Reading -/

/-- An endpoint is read just where host and port are put side by side. -/
theorem parse?_eq_some_iff {text : String} {e : Endpoint} : parse? text = some e ↔
    ∃ port, (Spells (Text.trim text.toList) e.host.toList port ∧ e.host.toList ≠ []) ∧
      Option.Rel Numeral port e.port ∧ e.ownAdminPort = none := by
  unfold parse?
  constructor
  · intro h
    split at h
    · cases h
    · cases h
    · rename_i host hfilled hsplit
      cases h
      rw [split?_eq_some_iff] at hsplit
      refine ⟨none, ⟨?_, ?_⟩, .none, rfl⟩
      · rwa [of, String.toList_ofList]
      · rw [of, String.toList_ofList]
        exact hfilled
    · rename_i host port hfilled hsplit
      obtain ⟨p, hp, rfl⟩ := Option.map_eq_some_iff.mp h
      rw [split?_eq_some_iff] at hsplit
      refine ⟨some port, ⟨?_, ?_⟩, .some (Text.port?_eq_some_iff.mp hp), rfl⟩
      · rwa [of, String.toList_ofList]
      · rw [of, String.toList_ofList]
        exact hfilled
  · rintro ⟨port, ⟨hspells, hfilled⟩, hport, hadmin⟩
    rw [split?_eq_some_iff.mpr hspells]
    obtain ⟨host, p, admin⟩ := e
    cases hadmin
    have hhost : String.ofList host.toList = host := String.ofList_toList
    generalize host.toList = t at hhost hfilled
    obtain ⟨c, r, rfl⟩ := List.exists_cons_of_ne_nil hfilled
    cases hport with
    | none => exact congrArg (fun h => some (of h none)) hhost
    | some h =>
      simp only [Text.port?_eq_some_iff.mpr h, Option.map_some, hhost]
      rfl

theorem parse_eq_ok_iff {text : String} {e : Endpoint} :
    parse text = .ok e ↔ parse? text = some e := by
  unfold parse
  cases parse? text with
  | none => simp
  | some e' => simp

theorem denotes_iff {text : String} {e : Endpoint} : parse text = .ok e ↔
    Denotes Documented (Text.trim text.toList) e ∨ Denotes Stray (Text.trim text.toList) e := by
  rw [parse_eq_ok_iff, parse?_eq_some_iff]
  constructor
  · rintro ⟨port, hspells, hport, hadmin⟩
    rcases (spells_iff hport).mp hspells with h | h
    · exact Or.inl ⟨port, h, hport, hadmin⟩
    · exact Or.inr ⟨port, h, hport, hadmin⟩
  · rintro (⟨port, h, hport, hadmin⟩ | ⟨port, h, hport, hadmin⟩)
    · exact ⟨port, (spells_iff hport).mpr (Or.inl h), hport, hadmin⟩
    · exact ⟨port, (spells_iff hport).mpr (Or.inr h), hport, hadmin⟩

/-- **Which texts are read as endpoints.**  A text counts without the blanks around it.

    * The documented forms and no others are read, a name or an address with a port or without, each
      as the endpoint with that host, that port and no admin port.  This holds just for the texts
      that are not something else between brackets;
    * those are read as well, with what stands between the brackets for the host;
    * any other text is refused. -/
theorem parse_documented_iff (text : String) :
    let s := Text.trim text.toList
    ((∀ e, parse text = .ok e ↔ Denotes Documented s e) ↔ ∀ e, ¬ Denotes Stray s e) ∧
      (∀ e, parse text = .ok e ↔ Denotes Documented s e ∨ Denotes Stray s e) ∧
      ((∀ e, parse text ≠ .ok e) → parse text = .error (.invalidEndpoint text)) := by
  intro s
  refine ⟨⟨?_, ?_⟩, fun e => denotes_iff, ?_⟩
  · intro hmeets e hstray
    obtain ⟨port, hform, -⟩ := (hmeets e).mp (denotes_iff.mpr (Or.inr hstray))
    obtain ⟨port', hform', -⟩ := hstray
    exact hform.not_stray hform'
  · intro hno e
    rw [denotes_iff, or_iff_left (hno e)]
  · intro hnone
    cases hread : parse? text with
    | none => rw [parse, hread]
    | some e => exact absurd (parse_eq_ok_iff.mpr hread) (hnone e)

/-- A name between brackets is read as the name. -/
theorem parse_stray : parse "[x]" = .ok (.of "x" none) ∧
    ∀ e, ¬ Denotes Documented (Text.trim "[x]".toList) e := by
  have htrim : Text.trim "[x]".toList = '[' :: (['x'] ++ ']' :: portText none) := by decide
  refine ⟨by decide, ?_⟩
  rintro e ⟨port, hform, -⟩
  rw [htrim] at hform
  exact hform.not_stray (.bracketed none (by decide) (by decide) (by decide))

/-! ## Reading back -/

/-- What the host must be like for the text of an endpoint to name it.  It starts neither with a blank nor
    with a bracket, does not end in a blank if nothing stands behind it, and any colons in it are those of
    an address. -/
structure Readable (e : Endpoint) : Prop where
  filled : e.host ≠ ""
  front : ∀ c ∈ e.host.toList.head?, Text.isBlank c = false ∧ c ≠ '['
  back : e.port = none → ∀ c ∈ e.host.toList.getLast?, Text.isBlank c = false
  colons : ':' ∈ e.host.toList → (Ipv6.parse? e.host.toList).isSome

/-- The digits of the port. -/
def portDigits (e : Endpoint) : Option (List Char) := e.port.map fun p => Text.decimal p.toNat

theorem rel_portDigits (e : Endpoint) : Option.Rel Numeral e.portDigits e.port := by
  unfold portDigits
  cases e.port with
  | none => exact .none
  | some p => exact .some (numeral_decimal p)

theorem toList_text (e : Endpoint) :
    e.text.toList = e.urlHost.toList ++ portText e.portDigits := by
  have hcolon : ":".toList = [':'] := rfl
  unfold text portDigits
  cases e.port with
  | none => simp [portText]
  | some p => simp [portText, hcolon]

theorem isDigit_of_mem_portText {e : Endpoint} {c : Char} (hc : c ∈ portText e.portDigits) :
    c = ':' ∨ c.isDigit = true := by
  unfold portDigits at hc
  cases hport : e.port with
  | none =>
    rw [hport] at hc
    cases hc
  | some p =>
    rw [hport] at hc
    exact (List.mem_cons.mp hc).imp_right ((NodeText.isPort_decimal p).isDigit c)

theorem not_isBlank_of_portText {e : Endpoint} {c : Char} (hc : c ∈ portText e.portDigits) :
    Text.isBlank c = false := by
  rcases isDigit_of_mem_portText hc with rfl | hdigit
  · decide
  · exact Text.isBlank_of_isDigit hdigit

theorem closing_not_mem_portText (e : Endpoint) : ']' ∉ portText e.portDigits := by
  intro hc
  rcases isDigit_of_mem_portText hc with hcolon | hdigit
  · exact absurd hcolon (by decide)
  · exact absurd hdigit (by decide)

theorem not_isBlank_of_address {s : List Char} (h : (Ipv6.parse? s).isSome) {c : Char} (hc : c ∈ s) :
    Text.isBlank c = false := by
  rw [Bool.eq_false_iff]
  intro hblank
  have hdot : c ≠ '.' := by
    rintro rfl
    exact absurd hblank (by decide)
  have hcolon : c ≠ ':' := by
    rintro rfl
    exact absurd hblank (by decide)
  rw [Ipv6.parse?_eq_none (Text.digit?_of_isBlank hblank) (Text.digit?_of_isBlank hblank) hdot hcolon
    hc] at h
  cases h

theorem toList_text_of_address {e : Endpoint} (h : (Ipv6.parse? e.host.toList).isSome) :
    e.text.toList = '[' :: (e.host.toList ++ ']' :: portText e.portDigits) := by
  have hopen : "[".toList = ['['] := rfl
  have hclose : "]".toList = [']'] := rfl
  rw [toList_text, urlHost, if_pos h]
  simp [hopen, hclose]

theorem toList_text_of_name {e : Endpoint} (h : ¬ (Ipv6.parse? e.host.toList).isSome) :
    e.text.toList = e.host.toList ++ portText e.portDigits := by
  rw [toList_text, urlHost, if_neg h]

/-- There are no blanks in the text of an address. -/
theorem trim_text_of_address {e : Endpoint} (h : (Ipv6.parse? e.host.toList).isSome) :
    Text.trim e.text.toList = e.text.toList := by
  have hplain : ∀ c ∈ e.text.toList, Text.isBlank c = false := by
    intro c hc
    rw [toList_text_of_address h, List.mem_cons, List.mem_append, List.mem_cons] at hc
    rcases hc with rfl | hhost | rfl | hport
    · decide
    · exact not_isBlank_of_address h hhost
    · decide
    · exact not_isBlank_of_portText hport
  exact Text.trim_eq_self (fun c hc => hplain c (List.mem_of_mem_head? hc))
    fun c hc => hplain c (List.mem_of_mem_getLast? hc)

theorem Readable.trim_text {e : Endpoint} (h : e.Readable) :
    Text.trim e.text.toList = e.text.toList := by
  by_cases haddress : (Ipv6.parse? e.host.toList).isSome
  · exact trim_text_of_address haddress
  · have hfilled : e.host.toList ≠ [] := fun hnil => h.filled (String.toList_eq_nil_iff.mp hnil)
    rw [toList_text_of_name haddress]
    refine Text.trim_eq_self (fun c hc => ?_) fun c hc => ?_
    · rw [List.head?_append_of_ne_nil _ hfilled] at hc
      exact (h.front c hc).1
    · cases hport : e.port with
      | none =>
        rw [portDigits, hport, Option.map_none, portText, List.append_nil] at hc
        exact h.back hport c hc
      | some p =>
        have hne : portText e.portDigits ≠ [] := by
          rw [portDigits, hport]
          exact List.cons_ne_nil _ _
        rw [List.getLast?_append_of_ne_nil _ hne] at hc
        exact not_isBlank_of_portText (List.mem_of_mem_getLast? hc)

/-- The text of an endpoint has the endpoint's host and port side by side, if its host is readable. -/
theorem Readable.spells {e : Endpoint} (h : e.Readable) :
    Spells (Text.trim e.text.toList) e.host.toList e.portDigits := by
  rw [h.trim_text]
  by_cases haddress : (Ipv6.parse? e.host.toList).isSome
  · rw [toList_text_of_address haddress]
    exact .bracketed _ (closing_not_mem haddress)
  · have hcolon : ':' ∉ e.host.toList := fun hin => haddress (h.colons hin)
    rw [toList_text_of_name haddress]
    exact .named _ (fun hopen => (h.front _ hopen).2 rfl) hcolon
      (not_address_of_named hcolon (colon_not_mem_of_rel e.rel_portDigits))

/-- The host that stands in the text of an endpoint as the endpoint has it is readable. -/
theorem readable_of_spells {e : Endpoint} {port : Option (List Char)}
    (h : Spells (Text.trim e.text.toList) e.host.toList port) (hfilled : e.host ≠ "")
    (hport : Option.Rel Numeral port e.port) : e.Readable := by
  by_cases haddress : (Ipv6.parse? e.host.toList).isSome
  · exact {
      filled := hfilled
      front := fun c hc => ⟨not_isBlank_of_address haddress (List.mem_of_mem_head? hc),
        fun hopen => head_of_address haddress (hopen ▸ hc)⟩
      back := fun _ c hc => not_isBlank_of_address haddress (List.mem_of_mem_getLast? hc)
      colons := fun _ => haddress }
  · obtain ⟨hfront, hback⟩ := Text.trim_ends e.text.toList
    have htext := toList_text_of_name haddress
    generalize ht : Text.trim e.text.toList = t at h hfront hback
    generalize hs : e.host.toList = s at h
    cases h with
    | address h => exact absurd (hs ▸ h) haddress
    | bracketed _ hclosed =>
      -- The closing bracket comes from the text, and there only the host could have one.
      have hin : ']' ∈ e.text.toList := by
        refine Text.mem_of_mem_trim ?_
        rw [ht]
        simp
      rw [htext, hs, List.mem_append] at hin
      exact absurd hin (not_or.mpr ⟨hclosed, closing_not_mem_portText e⟩)
    | named _ hbare hcolon _ =>
      have hne : s ≠ [] := fun hnil => hfilled (String.toList_eq_nil_iff.mp (hs.trans hnil))
      rw [List.head?_append_of_ne_nil _ hne] at hfront
      refine {
        filled := hfilled
        front := fun c hc => ?_
        back := fun hnone c hc => ?_
        colons := fun hin => absurd (hs ▸ hin) hcolon }
      · rw [hs] at hc
        refine ⟨hfront c hc, ?_⟩
        rintro rfl
        exact hbare hc
      · rw [hnone] at hport
        cases hport
        rw [portText, List.append_nil] at hback
        exact hback c (hs ▸ hc)

/-- **Which endpoints are read back from their own text.** -/
theorem parse_text_iff (e : Endpoint) :
    (∃ e', parse e.text = .ok e' ∧ e'.same e = true) ↔ e.Readable := by
  constructor
  · rintro ⟨e', hread, hsame⟩
    obtain ⟨hhost, hport⟩ := same_iff.mp hsame
    obtain ⟨port, ⟨hspells, hfilled⟩, hrel, -⟩ := parse?_eq_some_iff.mp (parse_eq_ok_iff.mp hread)
    rw [hhost] at hspells hfilled
    rw [hport] at hrel
    exact readable_of_spells hspells (fun hnil => hfilled (String.toList_eq_nil_iff.mpr hnil)) hrel
  · intro h
    refine ⟨.of e.host e.port, ?_, by simp [of]⟩
    rw [parse_eq_ok_iff, parse?_eq_some_iff]
    have hfilled : e.host.toList ≠ [] := fun hnil => h.filled (String.toList_eq_nil_iff.mp hnil)
    exact ⟨e.portDigits, ⟨h.spells, hfilled⟩, e.rel_portDigits, rfl⟩

end Endpoint

end Failover
