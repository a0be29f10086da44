import Failover.Proofs.Url.Authority
import Failover.Text.Basic
/-!
# Texts

What readers rely on when they take texts apart from the front.

* `Text.span_append` : where a run of characters of one kind ends;
* `Text.pieces_joined` : texts without a separator are the pieces of what they are joined to.
  `Text.joined_pieces`: every text is what its pieces are joined to;
* `Text.number?_of_isDigit` : what decimal digits spell; `Text.decimal_leading` : how they are written;
* `Text.trim_append`, `Text.trim_eq_self` : what is trimmed of a text that ends in no blank.
  `Text.trim_ends`: so does what is trimmed of any.
-/

set_option autoImplicit false

namespace Failover.Text

/-- A run of characters that satisfy `p` ends where the next one does not. -/
theorem span_append {p : Char → Bool} {s rest : List Char} (hs : ∀ c ∈ s, p c = true)
    (hrest : ∀ c ∈ rest.head?, p c = false) :
    (s ++ rest).takeWhile p = s ∧ (s ++ rest).dropWhile p = rest := by
  rw [List.takeWhile_append_of_pos hs, List.dropWhile_append_of_pos hs]
  cases rest with
  | nil => exact ⟨List.append_nil s, rfl⟩
  | cons c r =>
    have hc : ¬ p c = true := Bool.eq_false_iff.mp (hrest c rfl)
    rw [List.takeWhile_cons_of_neg hc, List.dropWhile_cons_of_neg hc]
    exact ⟨List.append_nil s, rfl⟩

/-! ## Pieces -/

theorem pieces_of_not_mem {sep : Char} : ∀ {s : List Char}, sep ∉ s → pieces sep s = [s]
  | [], _ => rfl
  | c :: r, h => by
    simp only [List.mem_cons, not_or] at h
    rw [pieces, if_neg (Ne.symm h.1), pieces_of_not_mem h.2]

/-- A text without the separator is the first piece of what it is joined to. -/
theorem pieces_append {sep : Char} (r : List Char) : ∀ {p : List Char}, sep ∉ p →
    pieces sep (p ++ sep :: r) = p :: pieces sep r
  | [], _ => by simp [pieces]
  | c :: p, h => by
    simp only [List.mem_cons, not_or] at h
    rw [List.cons_append, pieces, if_neg (Ne.symm h.1), pieces_append r h.2]

/-- Texts without the separator are the pieces of what they are joined to. -/
theorem pieces_joined {sep : Char} : ∀ {ps : List (List Char)}, ps ≠ [] → (∀ p ∈ ps, sep ∉ p) →
    pieces sep (joined [sep] ps) = ps
  | [], hne, _ => absurd rfl hne
  | [p], _, h => pieces_of_not_mem (h p List.mem_cons_self)
  | p :: q :: ps, _, h => by
    have hrest := pieces_joined (List.cons_ne_nil q ps) fun x hx => h x (List.mem_cons_of_mem p hx)
    rw [joined, List.append_assoc, List.singleton_append, pieces_append _ (h p List.mem_cons_self),
      hrest]

theorem mem_joined {sep : List Char} {c : Char} : ∀ {ps : List (List Char)},
    c ∈ joined sep ps → c ∈ sep ∨ ∃ p ∈ ps, c ∈ p
  | [p], h => Or.inr ⟨p, List.mem_cons_self, h⟩
  | p :: q :: ps, h => by
    rw [joined, List.append_assoc, List.mem_append, List.mem_append] at h
    rcases h with h | h | h
    · exact Or.inr ⟨p, List.mem_cons_self, h⟩
    · exact Or.inl h
    · refine (mem_joined h).imp_right ?_
      rintro ⟨x, hx, hc⟩
      exact ⟨x, List.mem_cons_of_mem p hx, hc⟩

/-- There is one piece more than there are separators. -/
theorem length_pieces (sep : Char) : ∀ s : List Char, (pieces sep s).length = s.count sep + 1
  | [] => rfl
  | c :: r => by
    have ih := length_pieces sep r
    rw [pieces]
    split
    · rename_i hsep
      rw [List.length_cons, ih, hsep, List.count_cons_self]
    · rename_i hsep
      rw [List.count_cons_of_ne hsep]
      cases hp : pieces sep r with
      | nil =>
        rw [hp] at ih
        cases ih
      | cons p ps =>
        rw [hp] at ih
        exact ih

/-- A text is what its pieces are joined to. -/
theorem joined_pieces (sep : Char) : ∀ s : List Char, joined [sep] (pieces sep s) = s
  | [] => rfl
  | c :: r => by
    have ih := joined_pieces sep r
    rw [pieces]
    split
    · rename_i hsep
      cases hp : pieces sep r with
      | nil =>
        have hlength := length_pieces sep r
        rw [hp] at hlength
        cases hlength
      | cons p ps =>
        rw [hp] at ih
        rw [joined, ih, hsep]
        rfl
    · cases hp : pieces sep r with
      | nil =>
        rw [hp] at ih
        rw [← ih]
        rfl
      | cons p ps =>
        rw [hp] at ih
        rw [← ih]
        cases ps <;> rfl

/-! ## Digits -/

/-- Every character of a number is one of its digits. -/
theorem digit?_ne_none {base n : Nat} {s : List Char} (hs : number? base s = some n) {c : Char}
    (h : c ∈ s) : digit? base c ≠ none := by
  intro hc
  rw [number?_eq_none hc h] at hs
  cases hs

/-- What is no decimal digit has no value as one. -/
theorem digit?_eq_none {c : Char} (h : c.isDigit = false) : digit? 10 c = none := by
  have hrange : ¬ ('0'.toNat ≤ c.toNat ∧ c.toNat ≤ '9'.toNat) := by
    rw [← Char.isDigit_iff_toNat, h]
    exact Bool.false_ne_true
  have hzero : '0'.toNat = 0x30 := rfl
  have hnine : '9'.toNat = 0x39 := rfl
  rw [hzero, hnine] at hrange
  unfold digit?
  simp only [if_neg hrange]
  -- Letters count from ten on, and all else is as large as the base.
  refine if_neg ?_
  split
  · omega
  · split <;> omega

/-- A non-empty text of decimal digits is read as the number that it spells. -/
theorem number?_of_isDigit {s : List Char} (hne : s ≠ []) (h : ∀ d ∈ s, d.isDigit = true) :
    number? 10 s = some (Nat.ofDigitChars 10 s 0) := by
  cases s with
  | nil => exact absurd rfl hne
  | cons d r => exact numberFrom?_of_isDigit (d :: r) 0 h

theorem digitChar_ne_zero : ∀ n, n < 10 → 0 < n → n.digitChar ≠ '0' := by decide

theorem decimal_head {n : Nat} (h : 0 < n) : (decimal n).head? ≠ some '0' := by
  induction n using Nat.strongRecOn with
  | ind n ih =>
    unfold decimal
    rw [Nat.toDigits_eq_if (by decide)]
    split
    · rename_i hlt
      exact fun hzero => digitChar_ne_zero n hlt h (Option.some.inj hzero)
    · obtain ⟨d, ds, hd⟩ := List.exists_cons_of_ne_nil (Nat.toDigits_ne_nil (n := n / 10) (b := 10))
      have hfirst := ih (n / 10) (by omega) (by omega)
      rw [decimal, hd] at hfirst
      rw [hd]
      exact hfirst

/-- No zero stands in front of other digits. -/
theorem decimal_leading (n : Nat) :
    ¬ ((decimal n).head? = some '0' ∧ 1 < (decimal n).length) := by
  rintro ⟨hzero, hlong⟩
  rcases Nat.eq_zero_or_pos n with rfl | hpos
  · exact absurd hlong (by decide)
  · exact decimal_head hpos hzero

/-! ## Blanks -/

theorem isBlank_of_isDigit {c : Char} (h : c.isDigit = true) : isBlank c = false := by
  obtain ⟨hlow, hhigh⟩ := Char.isDigit_iff_toNat.mp h
  have hzero : '0'.toNat = 0x30 := rfl
  have hnine : '9'.toNat = 0x39 := rfl
  simp only [isBlank, Bool.or_eq_false_iff, Bool.and_eq_false_iff, decide_eq_false_iff_not,
    beq_eq_false_iff_ne]
  omega

/-- What does not start with a blank has none to drop. -/
theorem dropWhile_isBlank {s : List Char} (h : ∀ c ∈ s.head?, isBlank c = false) :
    s.dropWhile isBlank = s :=
  (span_append (s := []) (fun _ hc => absurd hc List.not_mem_nil) h).2

/-- If the rest of a text neither starts nor ends in a blank, only the blanks before it go. -/
theorem trim_append (s : List Char) {rest : List Char} (hne : rest ≠ [])
    (hfirst : ∀ c ∈ rest.head?, isBlank c = false)
    (hlast : ∀ c ∈ rest.getLast?, isBlank c = false) :
    trim (s ++ rest) = s.dropWhile isBlank ++ rest := by
  have hfront : (s ++ rest).dropWhile isBlank = s.dropWhile isBlank ++ rest := by
    rw [List.dropWhile_append]
    split
    · rename_i hall
      rw [List.isEmpty_iff.mp hall]
      exact dropWhile_isBlank hfirst
    · rfl
  have hback : (s.dropWhile isBlank ++ rest).reverse.dropWhile isBlank =
      (s.dropWhile isBlank ++ rest).reverse := by
    apply dropWhile_isBlank
    obtain ⟨d, hd⟩ := Option.isSome_iff_exists.mp (List.getLast?_isSome.mpr hne)
    rw [List.head?_reverse, List.getLast?_append, hd, Option.some_or, ← hd]
    exact hlast
  rw [trim, trimLeft, hfront, trimRight, hback, List.reverse_reverse]

/-- A text that neither starts nor ends in a blank is trimmed already. -/
theorem trim_eq_self {s : List Char} (hfirst : ∀ c ∈ s.head?, isBlank c = false)
    (hlast : ∀ c ∈ s.getLast?, isBlank c = false) : trim s = s := by
  have hback : s.reverse.dropWhile isBlank = s.reverse := by
    apply dropWhile_isBlank
    rw [List.head?_reverse]
    exact hlast
  rw [trim, trimLeft, dropWhile_isBlank hfirst, trimRight, hback, List.reverse_reverse]

/-- What is trimmed of a text is part of it. -/
theorem mem_of_mem_trim {c : Char} {s : List Char} (h : c ∈ trim s) : c ∈ s := by
  have hright := (List.dropWhile_suffix _).subset (List.mem_reverse.mp h)
  exact (List.dropWhile_suffix _).subset (List.mem_reverse.mp hright)

theorem not_isBlank_of_head {s : List Char} {c : Char} (h : c ∈ (s.dropWhile isBlank).head?) :
    isBlank c = false := by
  have hfirst := List.head?_dropWhile_not isBlank s
  rw [Option.mem_def.mp h] at hfirst
  exact hfirst

/-- A trimmed text neither starts nor ends in a blank. -/
theorem trim_ends (s : List Char) : (∀ c ∈ (trim s).head?, isBlank c = false) ∧
    ∀ c ∈ (trim s).getLast?, isBlank c = false := by
  constructor
  · intro c hc
    obtain ⟨front, hfront⟩ := List.dropWhile_suffix isBlank (l := (trimLeft s).reverse)
    have hwhole : trimLeft s = trim s ++ front.reverse := by
      rw [trim, trimRight, ← List.reverse_append, hfront, List.reverse_reverse]
    refine not_isBlank_of_head (s := s) (c := c) ?_
    show c ∈ (trimLeft s).head?
    rw [hwhole, List.head?_append, Option.mem_def.mp hc]
    rfl
  · intro c hc
    rw [trim, trimRight, List.getLast?_reverse] at hc
    exact not_isBlank_of_head hc

/-- No blank is a digit. -/
theorem digit?_of_isBlank {base : Nat} {c : Char} (h : isBlank c = true) :
    digit? base c = none := by
  simp only [isBlank, Bool.or_eq_true, Bool.and_eq_true, decide_eq_true_eq, beq_iff_eq] at h
  unfold digit?
  refine if_neg ?_
  split
  · omega
  · split
    · omega
    · split <;> omega

end Failover.Text
