import Failover.Text.Utf8
/-!
# Blanks, separators and numerals

* `isBlank` : membership in the Unicode property `White_Space`; `trim` : a text without the blanks at
  its two ends;
* `cut` : the text before and after the first separator; `pieces` : all the texts between separators, of
  which there is always one more than separators; `joined` : texts put together around a separator, the
  inverse of `pieces`; `occurs` : whether a text stands inside another;
* `digit?`, `number?` : the value of one digit below a base, and of a non-empty text that is digits only;
  `decimal` : the decimal digits of a number; `hex` : bytes, two hexadecimal digits each;
* `port?` : a port numeral, an optional plus sign and decimal digits of value below 2^16.
-/

set_option autoImplicit false

namespace Failover.Text

/-! ## Blanks -/

/-- The characters with the Unicode property `White_Space`. -/
def isBlank (c : Char) : Bool :=
  let n := c.toNat
  (9 ≤ n && n ≤ 13) || n == 0x20 || n == 0x85 || n == 0xA0 || n == 0x1680
    || (0x2000 ≤ n && n ≤ 0x200A) || n == 0x2028 || n == 0x2029 || n == 0x202F
    || n == 0x205F || n == 0x3000

/-- Drops the leading blanks. -/
def trimLeft (s : List Char) : List Char :=
  s.dropWhile isBlank

/-- Drops the trailing blanks. -/
def trimRight (s : List Char) : List Char :=
  (s.reverse.dropWhile isBlank).reverse

/-- Drops the blanks at both ends. -/
def trim (s : List Char) : List Char :=
  trimRight (trimLeft s)

/-! ## Separators -/

/-- The text before and after the first `sep`, if there is one. -/
def cut (sep : Char) : List Char → Option (List Char × List Char)
  | [] => none
  | c :: r => if c = sep then some ([], r) else (cut sep r).map fun p => (c :: p.1, p.2)

/-- The texts between the separators, in order. -/
def pieces (sep : Char) : List Char → List (List Char)
  | [] => [[]]
  | c :: r =>
    if c = sep then [] :: pieces sep r
    else match pieces sep r with
      | [] => [[c]]
      | p :: ps => (c :: p) :: ps

/-- The texts put together with `sep` between them. -/
def joined (sep : List Char) : List (List Char) → List Char
  | [] => []
  | [p] => p
  | p :: q :: ps => p ++ sep ++ joined sep (q :: ps)

/-- Whether a text holds `part` as consecutive characters. -/
def occurs (part : List Char) : List Char → Bool
  | [] => part.isEmpty
  | c :: r => part.isPrefixOf (c :: r) || occurs part r

/-- A text occurs in another just when it is one of its infixes. -/
theorem occurs_iff_isInfix {part s : List Char} : occurs part s = true ↔ part <:+: s := by
  induction s with
  | nil => simp [occurs]
  | cons c r ih =>
    rw [occurs, Bool.or_eq_true, ih, List.isPrefixOf_iff_prefix, List.infix_cons_iff]

/-- A cut loses nothing but the separator, and it is the first one. -/
theorem eq_of_cut {sep : Char} {s a b : List Char} (h : cut sep s = some (a, b)) :
    s = a ++ sep :: b ∧ sep ∉ a := by
  induction s generalizing a b with
  | nil => simp [cut] at h
  | cons c r ih =>
    by_cases hc : c = sep
    · simp [cut, hc] at h
      obtain ⟨rfl, rfl⟩ := h
      simp [hc]
    · simp [cut, hc] at h
      obtain ⟨a', h, rfl⟩ := h
      obtain ⟨rfl, hn⟩ := ih h
      exact ⟨rfl, by simp [hn, Ne.symm hc]⟩

/-- A text without a separator has no cut. -/
theorem cut_eq_none_iff {sep : Char} {s : List Char} : cut sep s = none ↔ sep ∉ s := by
  induction s with
  | nil => simp [cut]
  | cons c r ih =>
    by_cases hc : c = sep
    · simp [cut, hc]
    · simp [cut, hc, ih, Ne.symm hc]

/-- A text without the separator, then the separator, is cut there. -/
theorem cut_append {sep : Char} {a : List Char} (b : List Char) (h : sep ∉ a) :
    cut sep (a ++ sep :: b) = some (a, b) := by
  induction a with
  | nil => simp [cut]
  | cons c r ih =>
    simp only [List.mem_cons, not_or] at h
    simp [cut, Ne.symm h.1, ih h.2]

/-! ## Numerals -/

/-- The value of an ASCII digit or letter as a digit, if it is below `base`. -/
def digit? (base : Nat) (c : Char) : Option Nat :=
  let n := c.toNat
  let v :=
    if 0x30 ≤ n ∧ n ≤ 0x39 then n - 0x30
    else if 0x61 ≤ n ∧ n ≤ 0x7A then n - 0x57
    else if 0x41 ≤ n ∧ n ≤ 0x5A then n - 0x37
    else base
  if v < base then some v else none

/-- Reads the digits after `acc`. -/
def numberFrom? (base acc : Nat) : List Char → Option Nat
  | [] => some acc
  | c :: r => (digit? base c).bind fun d => numberFrom? base (acc * base + d) r

/-- The value of a non-empty text that holds digits only. -/
def number? (base : Nat) : List Char → Option Nat
  | [] => none
  | s => numberFrom? base 0 s

/-- The decimal digits of `n`. -/
def decimal (n : Nat) : List Char := Nat.toDigits 10 n

/-- A numeral that fits sixteen bits: an optional plus sign, then decimal digits. -/
def port? (s : List Char) : Option UInt16 :=
  let digits := match s with
    | '+' :: r => r
    | r => r
  (number? 10 digits).bind fun n => if n < 65536 then some (UInt16.ofNat n) else none

/-- The lower-case hexadecimal digit of a value below sixteen. -/
def hexDigit (n : Nat) : Char :=
  if n < 10 then Char.ofNat (0x30 + n) else Char.ofNat (0x57 + n)

/-- Bytes as hexadecimal digits, the higher four bits first. -/
def hex (b : Bytes) : List Char :=
  b.flatMap fun x => [hexDigit (x.toNat / 16), hexDigit (x.toNat % 16)]

end Failover.Text
