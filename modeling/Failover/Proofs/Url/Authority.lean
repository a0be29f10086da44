import Mathlib.Data.List.TakeDrop
import Mathlib.Data.List.TakeWhile
import Mathlib.Data.Nat.Digits.Defs
import Failover.Failure
import Failover.Proofs.Url.Host
import Failover.Url.Reader
/-!
# Where a host and a port stand

The URL parser finds its way back to the host and the port that a text was put together from.

* `Ipv6.eq_colon_of_delimits` : the only delimiters in an address are its colons;
* `Host.Written` : the texts that stand for a host: an address between brackets, or no delimiters;
  `Host.written_of_special?`: every text that is read as a host is one of them;
* `Text.number?_decimal` : decimal digits are read as the number that they were made from;
* `Url.parse_http` : what host and port behind `http://` are read as.  `Url.host_of_parse_http`:
  what is read has a host.  `Url.ne_defaultPort?_of_readPort`: its port is not the one that the scheme
  implies.
-/

set_option autoImplicit false

namespace Failover

open Host (Delimits)

variable {c : Char}

/-! ## Numbers -/

namespace Text

/-- What is no digit is in no number. -/
theorem number?_eq_none {base : Nat} (hc : digit? base c = none) {s : List Char} (h : c ∈ s) :
    number? base s = none := by
  have hfrom : ∀ (s : List Char) (acc : Nat), c ∈ s → numberFrom? base acc s = none := by
    intro s
    induction s with
    | nil => intro acc h; cases h
    | cons d r ih =>
      intro acc h
      rw [numberFrom?]
      rcases List.mem_cons.mp h with rfl | h
      · rw [hc]
        rfl
      · cases digit? base d with
        | none => rfl
        | some v => exact ih _ h
  cases s with
  | nil => cases h
  | cons d r => exact hfrom _ 0 h

theorem isDigit_of_mem_decimal {n : Nat} (h : c ∈ decimal n) : c.isDigit = true :=
  Nat.isDigit_of_mem_toDigits (by decide) (by decide) h

/-- The value of a decimal digit is its distance from zero. -/
theorem digit?_of_isDigit (h : c.isDigit = true) : digit? 10 c = some (c.toNat - '0'.toNat) := by
  obtain ⟨hlow, hhigh⟩ := Char.isDigit_iff_toNat.mp h
  have hzero : '0'.toNat = 0x30 := rfl
  have hnine : '9'.toNat = 0x39 := rfl
  rw [hzero] at hlow
  rw [hnine] at hhigh
  simp only [digit?, hlow, hhigh, and_self, if_true, hzero]
  rw [if_pos (by omega)]

theorem numberFrom?_of_isDigit : ∀ (s : List Char) (acc : Nat), (∀ d ∈ s, d.isDigit = true) →
    numberFrom? 10 acc s = some (Nat.ofDigitChars 10 s acc)
  | [], _, _ => rfl
  | d :: s, acc, h => by
    rw [numberFrom?, digit?_of_isDigit (h d List.mem_cons_self), Option.bind_some,
      numberFrom?_of_isDigit s _ fun e he => h e (List.mem_cons_of_mem d he),
      Nat.ofDigitChars_cons, Nat.mul_comm]

theorem numberFrom?_append (base : Nat) (t : List Char) : ∀ (s : List Char) (acc : Nat),
    numberFrom? base acc (s ++ t) = (numberFrom? base acc s).bind fun n => numberFrom? base n t
  | [], _ => rfl
  | d :: s, acc => by
    rw [List.cons_append, numberFrom?, numberFrom?]
    cases digit? base d with
    | none => rfl
    | some v => exact numberFrom?_append base t s _

/-- Digits are read as the number that they were made from, in every base whose digits are. -/
theorem number?_toDigits {base : Nat} (hbase : 1 < base)
    (hdigits : ∀ d < base, digit? base d.digitChar = some d) (n : Nat) :
    number? base (Nat.toDigits base n) = some n := by
  have hfrom : numberFrom? base 0 (Nat.toDigits base n) = some n := by
    induction n using Nat.strongRecOn with
    | ind n ih =>
      rw [Nat.toDigits_eq_if hbase]
      split
      · rename_i hlt
        rw [numberFrom?, hdigits n hlt, Option.bind_some, numberFrom?, Nat.zero_mul, Nat.zero_add]
      · rename_i hle
        have hpos : 0 < n := by omega
        rw [numberFrom?_append, ih _ (Nat.div_lt_self hpos hbase), Option.bind_some, numberFrom?,
          hdigits _ (Nat.mod_lt _ (by omega)), Option.bind_some, numberFrom?, Nat.div_add_mod']
  cases hd : Nat.toDigits base n with
  | nil => exact absurd hd Nat.toDigits_ne_nil
  | cons d r =>
    rw [hd] at hfrom
    exact hfrom

/-- Decimal digits are read as the number that they were made from. -/
theorem number?_decimal (n : Nat) : number? 10 (decimal n) = some n :=
  number?_toDigits (by decide) (by decide) n

end Text

/-! ## Addresses -/

/-- A character that is neither a hexadecimal digit nor a dot is in no IPv4 address. -/
theorem Ipv4.parse?_eq_none (hten : Text.digit? 10 c = none) (hdot : c ≠ '.') {s : List Char}
    (h : c ∈ s) : Ipv4.parse? s = none := by
  have hoctet : ∀ p : List Char, c ∈ p → Ipv4.octet? p = none := by
    intro p hp
    rw [Ipv4.octet?, Text.number?_eq_none hten hp]
    split <;> rfl
  obtain ⟨p, hp, hin⟩ := Text.mem_pieces hdot h
  unfold Ipv4.parse?
  split
  · rename_i p₁ p₂ p₃ p₄ hpieces
    rw [hpieces] at hp
    simp only [List.mem_cons, List.not_mem_nil, or_false] at hp
    rcases hp with rfl | rfl | rfl | rfl
    · rw [hoctet p hin]
      rfl
    · rw [hoctet p hin]
      cases Ipv4.octet? p₁ <;> rfl
    · rw [hoctet p hin]
      cases Ipv4.octet? p₁ <;> cases Ipv4.octet? p₂ <;> rfl
    · rw [hoctet p hin]
      cases Ipv4.octet? p₁ <;> cases Ipv4.octet? p₂ <;> cases Ipv4.octet? p₃ <;> rfl
  · rfl

namespace Ipv6

/-- The two colons are all that a cut at a gap leaves out. -/
theorem eq_of_cutGap :
    ∀ {s a b : List Char}, cutGap s = some (a, b) → s = a ++ ':' :: ':' :: b := by
  intro s
  fun_induction cutGap s with
  | case1 r =>
    intro a b h
    cases h
    rfl
  | case2 d r hnot ih =>
    intro a b h
    obtain ⟨p, hp, hab⟩ := Option.map_eq_some_iff.mp h
    cases hab
    rw [List.cons_append, ← ih hp]
  | case3 =>
    intro a b h
    cases h

section

variable (hsixteen : Text.digit? 16 c = none) (hten : Text.digit? 10 c = none) (hdot : c ≠ '.')
include hsixteen

theorem group?_eq_none {p : List Char} (h : c ∈ p) : group? p = none := by
  rw [group?, Text.number?_eq_none hsixteen h]
  split <;> rfl

theorem hexGroups?_eq_none {p : List Char} (hin : c ∈ p) :
    ∀ {ps : List (List Char)}, p ∈ ps → hexGroups? ps = none
  | [], h => by cases h
  | q :: ps, h => by
    rw [hexGroups?]
    rcases List.mem_cons.mp h with rfl | h
    · rw [group?_eq_none hsixteen hin]
      rfl
    · rw [hexGroups?_eq_none hin h]
      cases group? q <;> rfl

include hten hdot

theorem lastGroups?_eq_none {p : List Char} (hin : c ∈ p) :
    ∀ {ps : List (List Char)}, p ∈ ps → lastGroups? ps = none
  | [], h => by cases h
  | [q], h => by
    rw [List.mem_singleton.mp h] at hin
    rw [lastGroups?, Ipv4.parse?_eq_none hten hdot hin, group?_eq_none hsixteen hin]
    rfl
  | q :: r :: ps, h => by
    rw [lastGroups?]
    · rcases List.mem_cons.mp h with rfl | h
      · rw [group?_eq_none hsixteen hin]
        rfl
      · rw [lastGroups?_eq_none hin h]
        cases group? q <;> rfl
    · simp

end

theorem mem_pieces (hcolon : c ≠ ':') {s : List Char} (h : c ∈ s) : ∃ p ∈ pieces s, c ∈ p := by
  unfold pieces
  cases s with
  | nil => cases h
  | cons d r => exact Text.mem_pieces hcolon h

/-- A character that is neither a digit nor a mark between digits is in no IPv6 address. -/
theorem parse?_eq_none (hsixteen : Text.digit? 16 c = none) (hten : Text.digit? 10 c = none)
    (hdot : c ≠ '.') (hcolon : c ≠ ':') {s : List Char} (hin : c ∈ s) : parse? s = none := by
  unfold parse?
  split
  · obtain ⟨p, hp, hinp⟩ := mem_pieces hcolon hin
    rw [lastGroups?_eq_none hsixteen hten hdot hinp hp]
    rfl
  · rename_i front back hgap
    rw [eq_of_cutGap hgap, List.mem_append] at hin
    rcases hin with hin | hin
    · obtain ⟨p, hp, hinp⟩ := mem_pieces hcolon hin
      rw [hexGroups?_eq_none hsixteen hinp hp]
      rfl
    · have hback : c ∈ back := by simpa [hcolon] using hin
      obtain ⟨p, hp, hinp⟩ := mem_pieces hcolon hback
      rw [lastGroups?_eq_none hsixteen hten hdot hinp hp]
      cases hexGroups? (pieces front) <;> rfl

/-- **The only delimiters in an IPv6 address are its colons.** -/
theorem eq_colon_of_delimits {s : List Char} (hs : (parse? s).isSome) (hin : c ∈ s)
    (hc : Delimits c) : c = ':' := by
  by_contra hcolon
  have hsixteen : Text.digit? 16 c = none :=
    hc.of_codes (P := fun c => Text.digit? 16 c = none) (by decide)
  have hten : Text.digit? 10 c = none :=
    hc.of_codes (P := fun c => Text.digit? 10 c = none) (by decide)
  have hdot : c ≠ '.' := hc.of_codes (P := fun c => c ≠ '.') (by decide)
  rw [parse?_eq_none hsixteen hten hdot hcolon hin] at hs
  cases hs

end Ipv6

/-! ## Hosts as they are written -/

theorem Url.orNone_name {t : String} (h : t ≠ "") : orNone (.name t) = some (.name t) := by
  unfold orNone
  split
  · rename_i heq
    exact absurd (Host.name.inj heq) h
  · rfl

namespace Host

/-- The texts that stand for a host in a URL. -/
inductive Written : List Char → Prop where
  | bracketed {s : List Char} (h : (Ipv6.parse? s).isSome) : Written ('[' :: (s ++ [']']))
  | plain {s : List Char} (filled : s ≠ []) (h : ∀ c ∈ s, ¬ Delimits c) : Written s

/-- Brackets that are read as an address have one between them. -/
theorem written_of_bracketed? {r : List Char} {host : Host}
    (hs : bracketed? ('[' :: r) = .ok host) : Written ('[' :: r) ∧ ∃ ip, host = .ipv6 ip := by
  unfold bracketed? at hs
  split at hs
  · rename_i hlast
    cases hip : Ipv6.parse? (('[' :: r).drop 1).dropLast with
    | none =>
      rw [hip] at hs
      cases hs
    | some ip =>
      rw [hip] at hs
      cases hs
      refine ⟨?_, ip, rfl⟩
      obtain ⟨inner, hinner⟩ := List.getLast?_eq_some_iff.mp hlast
      cases inner with
      | nil => cases hinner
      | cons d inner =>
        rw [List.cons_append] at hinner
        obtain ⟨rfl, rfl⟩ := List.cons.inj hinner
        rw [List.drop_one, List.tail_cons, List.dropLast_concat] at hip
        exact .bracketed (by rw [hip]; rfl)
  · cases hs

/-- Every text that is read as a host is written as one. -/
theorem written_of_special? [DomainNames] {s : List Char} {host : Host}
    (hs : special? s = .ok host) : Written s := by
  by_cases hname : s.head? = some '['
  · cases s with
    | nil => cases hname
    | cons d r =>
      cases hname
      exact (written_of_bracketed? hs).1
  · refine .plain ?_ (not_delimits_of_special? hs hname)
    rintro rfl
    have hempty : special? [] = .error .emptyHost := rfl
    cases hempty.symm.trans hs

/-- What is read is no empty name. -/
theorem orNone_of_special? [DomainNames] {s : List Char} {host : Host}
    (hs : special? s = .ok host) : Url.orNone host = some host := by
  unfold special? at hs
  split at hs
  · rename_i hname
    cases s with
    | nil => cases hname
    | cons d r =>
      cases hname
      obtain ⟨-, ip, rfl⟩ := written_of_bracketed? hs
      rfl
  · split at hs
    · cases hs
    · rename_i d _
      split at hs
      · cases hs
      · rename_i hne
        split at hs
        · cases hip : ipv4? d with
          | none =>
            rw [hip] at hs
            cases hs
          | some ip =>
            rw [hip] at hs
            cases hs
            rfl
        · cases hs
          refine Url.orNone_name fun hempty => hne ?_
          rw [String.ofList_eq_empty_iff.mp hempty]
          rfl

namespace Written

variable {s : List Char}

/-- The delimiters in a written host are brackets around it and colons between those. -/
theorem mem (h : Written s) (hin : c ∈ s) (hc : Delimits c) :
    c ∈ ['[', ':', ']'] := by
  cases h with
  | bracketed haddress =>
    simp only [List.mem_cons, List.mem_append, List.not_mem_nil, or_false] at hin ⊢
    rcases hin with rfl | hin | rfl
    · exact Or.inl rfl
    · exact Or.inr (Or.inl (Ipv6.eq_colon_of_delimits haddress hin hc))
    · exact Or.inr (Or.inr rfl)
  | plain _ hplain => exact absurd hc (hplain c hin)

theorem visible (h : Written s) (hin : c ∈ s) : 0x20 < c.toNat := by
  by_contra hlow
  have hc : Delimits c := List.mem_append_left _ (List.mem_range.mpr (by omega))
  have hbrackets : ∀ d ∈ ['[', ':', ']'], 0x20 < d.toNat := by simp
  exact hlow (hbrackets c (h.mem hin hc))

/-- No slash starts a written host. -/
theorem head (h : Written s) : ∃ d r, s = d :: r ∧ Url.isSlash true d = false := by
  cases s with
  | nil =>
    cases h with
    | plain filled => exact absurd rfl filled
  | cons d r =>
    refine ⟨d, r, rfl, Bool.eq_false_iff.mpr fun hslash => ?_⟩
    simp only [Url.isSlash, Bool.true_and, Bool.or_eq_true, beq_iff_eq] at hslash
    have honly := h.mem (c := d) List.mem_cons_self
    rcases hslash with rfl | rfl
    · exact absurd (honly (by decide)) (by decide)
    · exact absurd (honly (by decide)) (by decide)

end Written

end Host

/-! ## From the text to its parts -/

namespace Url

open Host (Written)

/-- Text that holds neither controls nor blanks counts as a whole. -/
theorem relevant_eq_self {s : List Char} (h : ∀ d ∈ s, 0x20 < d.toNat) : relevant s = s := by
  have hcounts : ∀ {t : List Char}, (∀ d ∈ t, 0x20 < d.toNat) →
      t.dropWhile isSurrounding = t := by
    intro t ht
    cases t with
    | nil => rfl
    | cons d r =>
      have hd : isSurrounding d = false := by
        simpa [isSurrounding] using ht d List.mem_cons_self
      rw [List.dropWhile_cons, hd]
      rfl
  unfold relevant
  simp only []
  rw [hcounts h, hcounts (by simpa using h), List.reverse_reverse, List.filter_eq_self]
  intro d hd
  have hlt := h d hd
  have hblank : ∀ {e : Char}, e.toNat ≤ 0x20 → (d == e) = false := by
    intro e he
    rw [beq_eq_false_iff_ne]
    rintro rfl
    omega
  simp [hblank]

theorem delimits_of_endsAuthority (h : endsAuthority true c = true) : Delimits c := by
  simp only [endsAuthority, isSlash, Bool.true_and, Bool.or_eq_true, beq_iff_eq] at h
  rcases h with ((rfl | rfl) | rfl) | rfl <;> decide

/-- Between brackets, colons are part of the host. -/
theorem spanHost_inside (r : List Char) : ∀ {s : List Char},
    (∀ d ∈ s, d ≠ ']' ∧ endsAuthority true d = false) →
      spanHost true true (s ++ ']' :: r) =
        (s ++ ']' :: (spanHost true false r).1, (spanHost true false r).2)
  | [], _ => by
    rw [List.nil_append, spanHost]
    rfl
  | d :: s, h => by
    obtain ⟨hclose, hends⟩ := h d List.mem_cons_self
    have ih := spanHost_inside r fun e he => h e (List.mem_cons_of_mem d he)
    rw [List.cons_append, spanHost]
    simp only [Bool.not_true, Bool.and_false, hends, Bool.or_self, Bool.false_eq_true, if_false,
      hclose, beq_iff_eq, ite_self, ih, List.cons_append]

/-- Outside brackets, the first colon ends the host. -/
theorem spanHost_plain (r : List Char) : ∀ {s : List Char}, (∀ d ∈ s, ¬ Delimits d) →
    spanHost true false (s ++ ':' :: r) = (s, ':' :: r)
  | [], _ => rfl
  | d :: s, h => by
    have hd := h d List.mem_cons_self
    have hends : endsAuthority true d = false :=
      Bool.eq_false_iff.mpr fun hends => hd (delimits_of_endsAuthority hends)
    have hcolon : d ≠ ':' := fun heq => hd (heq ▸ by decide)
    have hopen : d ≠ '[' := fun heq => hd (heq ▸ by decide)
    have ih := spanHost_plain r fun e he => h e (List.mem_cons_of_mem d he)
    rw [List.cons_append, spanHost]
    simp only [hcolon, hopen, hends, beq_iff_eq, Bool.or_false, Bool.and_eq_true, false_and,
      if_false, ite_self, ih]

/-- The host text ends at the colon behind a written host. -/
theorem spanHost_written {s : List Char} (h : Written s) (r : List Char) :
    spanHost true false (s ++ ':' :: r) = (s, ':' :: r) := by
  cases h with
  | plain _ hplain => exact spanHost_plain r hplain
  | @bracketed s haddress =>
    have hinside : ∀ d ∈ s, d ≠ ']' ∧ endsAuthority true d = false := by
      intro d hd
      have honly := Ipv6.eq_colon_of_delimits haddress hd
      refine ⟨?_, Bool.eq_false_iff.mpr fun hends => ?_⟩
      · rintro rfl
        exact absurd (honly (by decide)) (by decide)
      · rw [honly (delimits_of_endsAuthority hends)] at hends
        exact absurd hends (by decide)
    have hspan := spanHost_inside (':' :: r) hinside
    rw [List.cons_append, List.append_assoc, List.singleton_append, spanHost]
    simp [hspan, spanHost, endsAuthority, isSlash]

/-- A text without `@` has no user name. -/
theorem cutUserinfo_eq_none {s : List Char} (h : '@' ∉ s) : cutUserinfo s = none := by
  have hall : s.reverse.dropWhile (fun d => d != '@') = [] := by
    rw [List.dropWhile_eq_nil_iff]
    intro d hd
    rw [bne_iff_ne]
    rintro rfl
    exact h (List.mem_reverse.mp hd)
  rw [cutUserinfo, List.span_eq_takeWhile_dropWhile, hall]

/-- A port as it stands in a URL: left out if it is the one that the scheme implies. -/
def shownPort (scheme : String) (p : UInt16) : Option UInt16 :=
  if some p = defaultPort? scheme then none else some p

theorem shownPort_http (p : UInt16) : shownPort "http" p = if p = 80 then none else some p := by
  simp only [shownPort, defaultPort?, Option.some.injEq]

theorem readPort_decimal (scheme : String) (p : UInt16) :
    readPort scheme (Text.decimal p.toNat ++ ['/']) = .ok (shownPort scheme p, ['/']) := by
  have hdigits : ∀ d ∈ Text.decimal p.toNat, d.isDigit = true :=
    fun _ => Text.isDigit_of_mem_decimal
  have hlt : ¬ 65536 ≤ p.toNat := Nat.not_le.mpr p.toNat_lt
  unfold readPort
  simp only [List.takeWhile_append_of_pos hdigits, List.dropWhile_append_of_pos hdigits]
  simp only [show ['/'].takeWhile Char.isDigit = [] from rfl,
    show ['/'].dropWhile Char.isDigit = ['/'] from rfl, List.append_nil, Text.number?_decimal, hlt,
    if_false, UInt16.ofNat_toNat]
  rfl

theorem readAuthority_http [DomainNames] {s : List Char} {host : Host}
    (hs : Host.special? s = .ok host) (p : UInt16) :
    readAuthority "http" (s ++ ':' :: (Text.decimal p.toNat ++ ['/'])) =
      .ok (⟨"", none, some host, shownPort "http" p⟩, ['/']) := by
  have hw := Host.written_of_special? hs
  have hsome := Host.orNone_of_special? hs
  have hat : '@' ∉ s ++ ':' :: (Text.decimal p.toNat ++ ['/']) := by
    simp only [List.mem_append, List.mem_cons, List.not_mem_nil, or_false, not_or]
    refine ⟨fun hin => absurd (hw.mem hin (by decide)) (by decide), by decide, fun hin => ?_,
      by decide⟩
    exact absurd (Text.isDigit_of_mem_decimal hin) (by decide)
  have hfront : cutUserinfo (List.takeWhile (fun d => !endsAuthority true d)
      (s ++ ':' :: (Text.decimal p.toNat ++ ['/']))) = none :=
    cutUserinfo_eq_none fun hin => hat ((List.takeWhile_prefix _).subset hin)
  have hne : s.isEmpty = false := by
    cases hw with
    | bracketed => rfl
    | plain hne => simpa using hne
  unfold readAuthority
  simp only [show isSpecialScheme "http" = true from rfl, hfront, pure, Except.pure, bind,
    Except.bind, spanHost_written hw, readHost, hs, hne, if_true, Bool.false_eq_true, false_and,
    if_false, readPort_decimal, hsome, Option.isNone_some]

/-- **The URL parser finds host and port again**: a text that is read as a host, and a port behind
    it, are the authority of the URL that they are put into. -/
theorem parse_http [DomainNames] {s : List Char} {host : Host} (hs : Host.special? s = .ok host)
    (p : UInt16) : parse ("http://" ++ (String.ofList s ++ ":" ++ portText p) ++ "/") =
      .ok ⟨"http", some ⟨"", none, some host, shownPort "http" p⟩, false, "/", none, none⟩ := by
  have hw := Host.written_of_special? hs
  have htext : ("http://" ++ (String.ofList s ++ ":" ++ portText p) ++ "/").toList =
      "http://".toList ++ (s ++ ':' :: (Text.decimal p.toNat ++ ['/'])) := by
    simp [portText]
  have hvisible : ∀ d ∈ "http://".toList ++ (s ++ ':' :: (Text.decimal p.toNat ++ ['/'])),
      0x20 < d.toNat := by
    intro d hd
    have hfixed : ∀ e ∈ "http://".toList ++ [':', '/'], 0x20 < e.toNat := by simp
    simp only [List.mem_append, List.mem_cons, List.not_mem_nil, or_false] at hd hfixed
    rcases hd with hd | hd | hd | hd | hd
    · exact hfixed d (Or.inl hd)
    · exact hw.visible hd
    · exact hfixed d (Or.inr (Or.inl hd))
    · have hdigit := (Char.isDigit_iff_toNat.mp (Text.isDigit_of_mem_decimal hd)).1
      exact Nat.lt_of_lt_of_le (by decide) hdigit
    · exact hfixed d (Or.inr (Or.inr hd))
  have hscheme : scheme? ("http://".toList ++ (s ++ ':' :: (Text.decimal p.toNat ++ ['/']))) =
      some ("http", '/' :: '/' :: (s ++ ':' :: (Text.decimal p.toNat ++ ['/']))) := rfl
  have hslashes : ('/' :: '/' :: (s ++ ':' :: (Text.decimal p.toNat ++ ['/']))).dropWhile
      (isSlash true) = s ++ ':' :: (Text.decimal p.toNat ++ ['/']) := by
    obtain ⟨d, r, rfl, hd⟩ := hw.head
    rw [List.dropWhile_cons_of_pos rfl, List.dropWhile_cons_of_pos rfl, List.cons_append,
      List.dropWhile_cons_of_neg (by simpa using hd)]
  unfold parse
  rw [htext, relevant_eq_self hvisible, hscheme]
  show (readAuthority "http" (List.dropWhile (isSlash true) _)).bind _ = _
  rw [hslashes, readAuthority_http hs]
  rfl

/-! ## What is read has a host -/

/-- Reads what stands behind user name and password: the host and the port, and the text behind
    them. -/
def readHostPort [DomainNames] (scheme : String) (user : String × Option String) (bare : Bool)
    (s : List Char) : Except UrlFault (Authority × List Char) := do
  let special := isSpecialScheme scheme
  let (h, rest) := spanHost special false s
  if h.isEmpty ∧ special then throw .emptyHost
  let host ← readHost scheme h
  if h.isEmpty ∧ rest.head? = some ':' then throw .emptyHost
  let (port, rest) ← match rest with
    | ':' :: r => readPort scheme r
    | r => pure (none, r)
  if (orNone host).isNone ∧ bare = false then throw .emptyHost
  pure (⟨user.1, user.2, orNone host, port⟩, rest)

/-- An authority ends with its host and its port. -/
theorem readHostPort_of_readAuthority [DomainNames] {scheme : String} {s : List Char}
    {x : Authority × List Char} (h : readAuthority scheme s = .ok x) :
    ∃ user bare r, readHostPort scheme user bare r = .ok x := by
  unfold readAuthority at h
  simp only [] at h
  split at h
  · exact ⟨_, _, _, h⟩
  · split at h
    · obtain ⟨_, hthrow, -⟩ := ok_of_bind h
      cases hthrow
    · exact ⟨_, _, _, h⟩
  · exact ⟨_, _, _, h⟩

/-- Where the scheme has rules of its own, an authority has a host; its port was read as one. -/
theorem host_port_of_readAuthority [DomainNames] {scheme : String}
    (hspecial : isSpecialScheme scheme = true) {s rest : List Char} {a : Authority}
    (h : readAuthority scheme s = .ok (a, rest)) :
    (∃ host, a.host = some host) ∧
      (a.port = none ∨ ∃ r behind, readPort scheme r = .ok (a.port, behind)) := by
  obtain ⟨user, bare, r, h⟩ := readHostPort_of_readAuthority h
  unfold readHostPort at h
  simp only [] at h
  split at h
  · obtain ⟨_, hthrow, -⟩ := ok_of_bind h
    cases hthrow
  · obtain ⟨host, hhost, h⟩ := ok_of_bind h
    rw [readHost, if_pos hspecial] at hhost
    have hsome := Host.orNone_of_special? hhost
    split at h
    · obtain ⟨_, hthrow, -⟩ := ok_of_bind h
      cases hthrow
    · simp only [hsome, Option.isNone_some, Bool.false_eq_true, false_and, if_false] at h
      split at h
      · obtain ⟨⟨port, behind⟩, hport, h⟩ := ok_of_bind h
        cases h
        exact ⟨⟨host, rfl⟩, Or.inr ⟨_, _, hport⟩⟩
      · cases h
        exact ⟨⟨host, rfl⟩, Or.inl rfl⟩

theorem host_of_readAuthority [DomainNames] {scheme : String}
    (hspecial : isSpecialScheme scheme = true) {s rest : List Char} {a : Authority}
    (h : readAuthority scheme s = .ok (a, rest)) :
    ∃ host, a.host = some host :=
  (host_port_of_readAuthority hspecial h).1

/-- No port is read that the scheme implies. -/
theorem ne_defaultPort?_of_readPort {scheme : String} (hdefault : defaultPort? scheme ≠ none)
    {s rest : List Char} {p : Option UInt16} (h : readPort scheme s = .ok (p, rest)) :
    p ≠ defaultPort? scheme := by
  have hkept : ∀ q : Option UInt16,
      (if q = defaultPort? scheme then none else q) ≠ defaultPort? scheme := by
    intro q
    split
    · exact hdefault.symm
    · assumption
  unfold readPort at h
  simp only [] at h
  split at h
  · split at h
    · cases h
      exact hdefault.symm
    · split at h
      · cases h
        exact hdefault.symm
      · cases h
  · split at h
    · cases h
    · split at h
      · cases h
        exact hkept _
      · split at h
        · cases h
          exact hkept _
        · cases h

/-- Nothing of `http://` is left out. -/
theorem relevant_http (t : List Char) : ∃ r, relevant ("http://".toList ++ t ++ ['/']) =
    "http://".toList ++ r := by
  have hfront : ("http://".toList ++ t ++ ['/']).dropWhile isSurrounding =
      "http://".toList ++ t ++ ['/'] := rfl
  have hback : ("http://".toList ++ t ++ ['/']).reverse.dropWhile isSurrounding =
      ("http://".toList ++ t ++ ['/']).reverse := by
    rw [List.reverse_append, List.reverse_singleton, List.singleton_append,
      List.dropWhile_cons_of_neg (by decide)]
  unfold relevant
  simp only []
  rw [hfront, hback, List.reverse_reverse, List.append_assoc, List.filter_append]
  exact ⟨_, rfl⟩

/-- **Every URL that starts with `http://` has a host.** -/
theorem host_of_parse_http [DomainNames] {t : String} {u : Url}
    (h : parse ("http://" ++ t ++ "/") = .ok u) :
    u.scheme = "http" ∧ ∃ host, u.host? = some host := by
  have htext : ("http://" ++ t ++ "/").toList = "http://".toList ++ t.toList ++ ['/'] := by simp
  obtain ⟨r, hr⟩ := relevant_http t.toList
  have hscheme : scheme? ("http://".toList ++ r) = some ("http", '/' :: '/' :: r) := rfl
  unfold parse at h
  rw [htext, hr, hscheme] at h
  obtain ⟨⟨a, rest⟩, ha, h⟩ := ok_of_bind (show (readAuthority "http" _ >>= _) = _ from h)
  cases h
  exact ⟨rfl, host_of_readAuthority rfl ha⟩

end Url

end Failover
