import Failover.Proofs.Url.Host
import Failover.Url.Idna.Tables
/-!
# Names with delimiters are refused

The tables for domain names make a library: mapping, composition and Punycode all leave delimiters in the
text, and in the end they are refused.

* `Text.mem_composed` : composition leaves them in the text;
* `Punycode.mem_decode?` : so does the decoding of a label, unless it fails;
* `Idna.general?_eq_none` : no name that holds one is looked up;
* `Idna.tables` : the library.
-/

set_option autoImplicit false

namespace Failover

open Host (Delimits delimiters)

/-! ## Composition -/

namespace Text

/-- A character that is no part of a composed one and is not composed itself. -/
structure Inert (c : Char) : Prop where
  apart : apart c = none
  first : ∀ d, together c d = none
  second : ∀ b, together b c = none

/-- No row of the table of compositions names a delimiter. -/
theorem compositions_apart {c : Char} (hc : Delimits c) {r : Nat × Nat × Nat}
    (hr : r ∈ compositions) : r.1 ≠ c.toNat ∧ r.2.1 ≠ c.toNat ∧ r.2.2 ≠ c.toNat := by
  have htable : (compositions.all fun r =>
      !delimiters.contains r.1 && Nat.ble 0x80 r.2.1 && Nat.ble 0x80 r.2.2) = true := by
    decide +kernel
  have hrow := List.all_eq_true.mp htable r hr
  simp only [Bool.and_eq_true, Bool.not_eq_true', List.contains_eq_mem, decide_eq_false_iff_not,
    Nat.ble_eq] at hrow
  obtain ⟨⟨hbase, hmark⟩, hwhole⟩ := hrow
  have hlt := hc.toNat_lt
  refine ⟨?_, by omega, by omega⟩
  intro heq
  rw [heq] at hbase
  exact hbase hc

theorem inert_of_delimits {c : Char} (hc : Delimits c) : Inert c := by
  have hlt := hc.toNat_lt
  refine ⟨?_, fun d => ?_, fun b => ?_⟩
  · have hnone : compositions.find? (fun r => r.2.2 == c.toNat) = none := by
      rw [List.find?_eq_none]
      intro r hr
      simpa using (compositions_apart hc hr).2.2
    unfold Text.apart
    simp only [hnone]
    rw [if_neg (by omega)]
    rfl
  · have hnone : compositions.find? (fun r => r.1 == c.toNat && r.2.1 == d.toNat) = none := by
      rw [List.find?_eq_none]
      intro r hr
      simp [(compositions_apart hc hr).1]
    unfold together
    simp only [hnone]
    rw [if_neg (by omega), if_neg (by omega)]
    rfl
  · have hnone : compositions.find? (fun r => r.1 == b.toNat && r.2.1 == c.toNat) = none := by
      rw [List.find?_eq_none]
      intro r hr
      simp [(compositions_apart hc hr).2.1]
    unfold together
    simp only [hnone]
    rw [if_neg (by omega), if_neg (by omega)]
    rfl

/-- Marks that are put in order are the characters that they were. -/
theorem mem_orderMarks {c : Char} : ∀ {s : List Char}, c ∈ s → c ∈ orderMarks s
  | [], h => by cases h
  | d :: r, h => by
    unfold orderMarks
    simp only []
    split
    · rcases List.mem_cons.mp h with rfl | h
      · exact List.mem_cons_self
      · exact List.mem_cons_of_mem d (mem_orderMarks h)
    · generalize hmarks : (orderMarks r).takeWhile (fun x => markClass x != 0) = marks
      generalize hfront : marks.takeWhile (fun x => decide (markClass x < markClass d)) = front
      have hrest : orderMarks r = marks ++ (orderMarks r).drop marks.length := by
        rw [← hmarks]
        exact (List.prefix_iff_eq_append.mp (List.takeWhile_prefix _)).symm
      have hin : marks = front ++ marks.drop front.length := by
        rw [← hfront]
        exact (List.prefix_iff_eq_append.mp (List.takeWhile_prefix _)).symm
      rcases List.mem_cons.mp h with rfl | h
      · simp
      · have hmem := mem_orderMarks h
        rw [hrest, hin] at hmem
        simp only [List.mem_append, List.mem_cons] at hmem ⊢
        rw [← hin] at hmem
        rcases hmem with (hmem | hmem) | hmem
        · exact Or.inl hmem
        · exact Or.inr (Or.inr (Or.inl hmem))
        · exact Or.inr (Or.inr (Or.inr hmem))

/-- An inert character stays where all characters are taken apart. -/
theorem mem_decomposed {c : Char} (hc : Inert c) {s : List Char} (h : c ∈ s) :
    c ∈ decomposed s := by
  refine mem_orderMarks (List.mem_flatMap.mpr ⟨c, h, ?_⟩)
  rw [apartFully, hc.apart]
  exact List.mem_singleton_self c

/-- The character is part of what has been composed so far; marks only follow a base. -/
def Composing.Holds (st : Composing) (c : Char) : Prop :=
  c ∈ st.done ∨ st.base = some c ∨ (st.base ≠ none ∧ c ∈ st.marks)

/-- An inert character stays when one more is taken in. -/
theorem Composing.Holds.add {c : Char} (hc : Inert c) {st : Composing} (h : st.Holds c) (d : Char) :
    (st.add d).Holds c := by
  have hjoined : ∀ {blocked : Bool} {b e : Char},
      (if blocked then none else together b d) = some e → together b d = some e := by
    intro blocked b e hsome
    cases blocked with
    | true => cases hsome
    | false => exact hsome
  unfold Composing.add
  simp only []
  cases hbase : st.base with
  | none =>
    rcases h with h | h | ⟨h, -⟩
    · exact Or.inl h
    · cases hbase.symm.trans h
    · exact absurd hbase h
  | some b =>
    have hmarks : c ∈ st.done ∨ b = c ∨ c ∈ st.marks := by
      rcases h with h | h | ⟨-, h⟩
      · exact Or.inl h
      · exact Or.inr (Or.inl (Option.some.inj (hbase.symm.trans h)))
      · exact Or.inr (Or.inr h)
    simp only []
    split
    · rename_i e hsome
      rcases hmarks with h | rfl | h
      · exact Or.inl h
      · -- An inert character is not the base that gives way.
        cases (hc.first d).symm.trans (hjoined hsome)
      · exact Or.inr (Or.inr ⟨by simp, h⟩)
    · split
      · refine Or.inl (List.mem_append.mpr ?_)
        rcases hmarks with h | rfl | h
        · exact Or.inr (List.mem_cons_of_mem b h)
        · exact Or.inr List.mem_cons_self
        · exact Or.inl h
      · rcases hmarks with h | rfl | h
        · exact Or.inl h
        · exact Or.inr (Or.inl rfl)
        · exact Or.inr (Or.inr ⟨by simp, List.mem_cons_of_mem d h⟩)

/-- An inert character that is taken in is there. -/
theorem Composing.holds_add {c : Char} (hc : Inert c) (st : Composing) : (st.add c).Holds c := by
  unfold Composing.add
  simp only [hc.second, ite_self]
  cases st.base with
  | none => exact Or.inr (Or.inl rfl)
  | some b =>
    simp only []
    split
    · exact Or.inr (Or.inl rfl)
    · exact Or.inr (Or.inr ⟨by simp, List.mem_cons_self⟩)

theorem Composing.holds_foldl {c : Char} (hc : Inert c) : ∀ (s : List Char) (st : Composing),
    st.Holds c ∨ c ∈ s → (s.foldl Composing.add st).Holds c
  | [], _, h => h.resolve_right (by simp)
  | d :: s, st, h => by
    refine holds_foldl hc s (st.add d) ?_
    rcases h with h | h
    · exact Or.inl (h.add hc d)
    · rcases List.mem_cons.mp h with rfl | h
      · exact Or.inl (st.holds_add hc)
      · exact Or.inr h

/-- An inert character stays in the composed form. -/
theorem mem_composed {c : Char} (hc : Inert c) {s : List Char} (h : c ∈ s) : c ∈ composed s := by
  have hholds := Composing.holds_foldl hc (decomposed s) ⟨[], none, []⟩
    (Or.inr (mem_decomposed hc h))
  unfold composed
  simp only []
  generalize (decomposed s).foldl Composing.add ⟨[], none, []⟩ = st at hholds
  cases hbase : st.base with
  | none =>
    rcases hholds with h | h | ⟨h, -⟩
    · exact List.mem_reverse.mpr h
    · cases hbase.symm.trans h
    · exact absurd hbase h
  | some b =>
    simp only [List.mem_reverse, List.mem_append, List.mem_cons]
    rcases hholds with h | h | ⟨-, h⟩
    · exact Or.inr (Or.inr h)
    · exact Or.inr (Or.inl (Option.some.inj (h.symm.trans hbase)))
    · exact Or.inl h

end Text

/-! ## Labels -/

namespace Punycode

/-- Digits are read without leaving anything out but what is no digit. -/
theorem mem_readDistance {c : Char} (hc : digitValue? c = none) {bias : Nat} :
    ∀ {s : List Char} {k w i : Nat} {j : Nat} {r : List Char},
      readDistance bias s k w i = some (j, r) → c ∈ s → c ∈ r
  | [], _, _, _, _, _, h, _ => by cases h
  | d :: s, k, w, i, j, r, h, hin => by
    unfold readDistance at h
    cases hd : digitValue? d with
    | none =>
      rw [hd] at h
      cases h
    | some v =>
      have hin' : c ∈ s := by
        rcases List.mem_cons.mp hin with rfl | hin
        · cases hc.symm.trans hd
        · exact hin
      rw [hd] at h
      simp only [Option.bind_eq_bind, Option.bind_some] at h
      split at h
      · cases h
        exact hin'
      · exact mem_readDistance hc h hin'

/-- A text that is read as distances holds nothing but digits, and what was there before stays. -/
theorem mem_readAll {c : Char} (hc : digitValue? c = none) :
    ∀ {fuel : Nat} {s : List Char} {n i bias : Nat} {out t : List Char},
      readAll fuel s n i bias out = some t → c ∉ s ∧ (c ∈ out → c ∈ t)
  | _, [], _, _, _, _, _, h => by
    rw [readAll] at h
    cases h
    exact ⟨List.not_mem_nil, id⟩
  | 0, _ :: _, _, _, _, _, _, h => by
    rw [readAll] at h
    cases h
  | fuel + 1, d :: s, n, i, bias, out, t, h => by
    unfold readAll at h
    cases hd : readDistance bias (d :: s) 36 1 i with
    | none =>
      rw [hd] at h
      cases h
    | some jr =>
      obtain ⟨j, r⟩ := jr
      rw [hd] at h
      simp only [Option.bind_eq_bind, Option.bind_some] at h
      split at h
      · cases h
      · obtain ⟨hrest, hout⟩ := mem_readAll hc h
        refine ⟨fun hin => hrest (mem_readDistance hc hd hin), fun hin => hout ?_⟩
        rw [← List.take_append_drop (j % (out.length + 1)) out] at hin
        rcases List.mem_append.mp hin with hin | hin
        · exact List.mem_append_left _ hin
        · exact List.mem_append_right _ (List.mem_cons_of_mem _ hin)

/-- What is no hyphen stands before the last hyphen or after it. -/
theorem mem_cutLast {c : Char} (hhyphen : c ≠ '-') {s : List Char} (h : c ∈ s) :
    c ∈ (cutLast s).1 ∨ c ∈ (cutLast s).2 := by
  have hin : c ∈ s.reverse := List.mem_reverse.mpr h
  rw [← List.takeWhile_append_dropWhile (p := fun x => x != '-') (l := s.reverse)] at hin
  unfold cutLast
  cases hfront : s.reverse.dropWhile fun x => x != '-' with
  | nil => exact Or.inr h
  | cons hyphen front =>
    rw [hfront] at hin
    rcases List.mem_append.mp hin with hin | hin
    · exact Or.inr (List.mem_reverse.mpr hin)
    · rcases List.mem_cons.mp hin with rfl | hin
      · -- The first character of the second part is the hyphen.
        have hstop := List.head?_dropWhile_not (fun x => x != '-') s.reverse
        rw [hfront] at hstop
        exact absurd (by simpa using hstop) hhyphen
      · exact Or.inl (List.mem_reverse.mpr hin)

/-- What is no digit stays in a label that is decoded. -/
theorem mem_decode? {c : Char} (hc : digitValue? c = none) (hhyphen : c ≠ '-') {s t : List Char}
    (ht : decode? s = some t) (h : c ∈ s) : c ∈ t := by
  have hplace := mem_cutLast hhyphen h
  unfold decode? at ht
  simp only [] at ht
  split at ht
  · obtain ⟨hdigits, hplain⟩ := mem_readAll hc ht
    exact hplain (hplace.resolve_right hdigits)
  · cases ht

end Punycode

namespace Idna

variable {c : Char}

/-- No label beyond ASCII holds a delimiter. -/
theorem isValidLabel_eq_false (hc : Delimits c) {label : List Char} (h : c ∈ label) :
    isValidLabel label = false := by
  have hvalid : isValid c = false := by
    rw [isValid, if_pos hc.toNat_lt, hc.forbidden]
    rfl
  have hall : label.all isValid = false := List.all_eq_false.mpr ⟨c, h, by simp [hvalid]⟩
  simp only [isValidLabel.eq_def, hall, Bool.false_and]

/-- The mark of an encoded label holds no delimiter. -/
theorem mem_drop_of_isEncoded (hc : Delimits c) {label : List Char} (henc : isEncoded label = true)
    (h : c ∈ label) : c ∈ label.drop 4 := by
  have hlower : Text.asciiLower c ∉ ['x', 'n', '-', '-'] :=
    hc.of_codes (P := fun c => Text.asciiLower c ∉ ['x', 'n', '-', '-']) (by decide)
  rw [← List.take_append_drop 4 label] at h
  rcases List.mem_append.mp h with h | h
  · refine absurd ?_ hlower
    rw [← eq_of_beq henc]
    exact List.mem_map_of_mem h
  · exact h

/-- No label with a delimiter is looked up. -/
theorem label?_eq_none (hc : Delimits c) {label : List Char} (h : c ∈ label) :
    label? label = none := by
  have hdigit : Punycode.digitValue? c = none :=
    hc.of_codes (P := fun c => Punycode.digitValue? c = none) (by decide)
  have hhyphen : c ≠ '-' := hc.of_codes (P := fun c => c ≠ '-') (by decide)
  unfold label?
  split
  · rename_i henc
    cases ht : Punycode.decode? (label.drop 4) with
    | none => rfl
    | some text =>
      have hin := Punycode.mem_decode? hdigit hhyphen ht (mem_drop_of_isEncoded hc henc h)
      simp [isValidLabel_eq_false hc hin]
  · split
    · rw [if_pos (List.any_eq_true.mpr ⟨c, h, hc.forbidden⟩)]
    · rw [isValidLabel_eq_false hc h]
      rfl

/-- One label that is not looked up spoils the name. -/
theorem labels?_eq_none {l : List Char} (hl : label? l = none) :
    ∀ {ls : List (List Char)}, l ∈ ls → labels? ls = none
  | [], h => by cases h
  | m :: ls, h => by
    rw [labels?]
    rcases List.mem_cons.mp h with rfl | h
    · rw [hl]
      rfl
    · rw [labels?_eq_none hl h]
      cases label? m <;> rfl

/-- No name with a delimiter is looked up. -/
theorem general?_eq_none (hc : Delimits c) {s : List Char} (h : c ∈ s) : general? s = none := by
  have hmapped : mapped c = [c] := hc.of_codes (P := fun c => mapped c = [c]) (by decide)
  have hdot : c ≠ '.' := hc.of_codes (P := fun c => c ≠ '.') (by decide)
  have hin : c ∈ s.flatMap mapped :=
    List.mem_flatMap.mpr ⟨c, h, by rw [hmapped]; exact List.mem_singleton_self c⟩
  obtain ⟨piece, hpiece, hc'⟩ :=
    Text.mem_pieces hdot (Text.mem_composed (Text.inert_of_delimits hc) hin)
  rw [general?, labels?_eq_none (label?_eq_none hc hc') hpiece]
  rfl

/-- The tables make a library. -/
instance tables : DomainNames where
  encoded? := general?
  encoded?_eq_none := fun hc h => general?_eq_none hc h

end Idna

end Failover
