import Failover.Pattern.Reader
import Failover.Proofs.HeaderFilter
/-!
# The library that clients run with

It meets what is relied on of a library of regular expressions.

* `Pattern.mem_ends_seq` and its like : where matches end, one lemma for each kind of pattern;
* `Pattern.parse?_whole` : how a plain name between `^` and `$` is read.  `Pattern.isIn_whole`: in which
  texts it is found;
* `Pattern.library_lawful` : the library is lawful.
-/

set_option autoImplicit false

namespace Failover.Pattern

open PatternLibrary

/-! ## Where matches end -/

theorem mem_merge {a b : List Nat} {n : Nat} : n ∈ merge a b ↔ n ∈ a ∨ n ∈ b := by
  unfold merge
  induction b generalizing a with
  | nil => simp
  | cons m b ih =>
    rw [List.foldl_cons, ih]
    split
    · rename_i hm
      have hknown : n = m → n ∈ a := fun h => h ▸ hm
      rw [List.mem_cons, ← or_assoc, or_iff_left_of_imp hknown]
    · rw [List.mem_append, List.mem_singleton, List.mem_cons, or_assoc]

theorem mem_spread {step : Nat → List Nat} {starts : List Nat} {n : Nat} :
    n ∈ spread step starts ↔ ∃ m ∈ starts, n ∈ step m := by
  have hfold : ∀ (starts acc : List Nat),
      n ∈ starts.foldl (fun acc m => merge acc (step m)) acc ↔
        n ∈ acc ∨ ∃ m ∈ starts, n ∈ step m := by
    intro starts
    induction starts with
    | nil => simp
    | cons m starts ih =>
      intro acc
      rw [List.foldl_cons, ih, mem_merge, or_assoc]
      simp
  rw [spread, hfold]
  simp

variable {text : List Char}

theorem mem_ends_seq {p q : Pattern} {n k : Nat} :
    k ∈ ends text (.seq p q) n ↔ ∃ m ∈ ends text p n, k ∈ ends text q m := by
  rw [ends, mem_spread]

theorem mem_ends_char {set : CharSet} {n : Nat} {c : Char} (hc : text[n]? = some c)
    (hset : set.has c = true) : n + 1 ∈ ends text (.char set) n := by
  rw [ends, hc]
  simp [hset]

theorem mem_ends_position {place : Place} {n : Nat}
    (h : place.holds (before text n) text[n]? = true) : n ∈ ends text (.position place) n := by
  rw [ends, if_pos h]
  exact List.mem_singleton_self n

theorem isIn_of_mem_ends {p : Pattern} {s : String} {n k : Nat} (hn : n ≤ s.toList.length)
    (h : k ∈ ends s.toList p n) : p.isIn s = true := by
  rw [isIn, List.any_eq_true]
  refine ⟨n, List.mem_range.mpr (Nat.lt_succ_of_le hn), ?_⟩
  rw [Bool.not_eq_true', List.isEmpty_eq_false_iff]
  exact List.ne_nil_of_mem h

/-! ## Plain names -/

/-- Letters match in either case, and nothing else is asked. -/
def caseless : Flags := ⟨true, false, false, false⟩

/-- Characters one after another, in either case, behind something else. -/
def spelled (sofar : Pattern) : List Char → Pattern
  | [] => sofar
  | c :: r => spelled (.seq sofar (literal caseless c)) r

/-- A name that makes up all of a text. -/
def whole (name : List Char) : Pattern :=
  .seq (spelled (.seq .empty (.position .textStart)) name) (.position .textEnd)

theorem readOne_plain (fuel : Nat) (f : Flags) (names : List (List Char)) {c : Char}
    (hc : IsPlain c) (r : List Char) :
    readOne (fuel + 1) f names (c :: r) = some ⟨some (literal f c), f, r, names⟩ := by
  unfold readOne
  split
  case h_15 =>
    rename_i h
    cases h
    rfl
  -- No character that has a meaning is plain.
  all_goals
    rename_i h
    cases h
  all_goals exact absurd hc (by decide)

/-- Nothing is repeated in front of a plain character or an end. -/
theorem readRepeats_plain (fuel : Nat) (item : Option Pattern) {c : Char}
    (hc : IsPlain c ∨ c = '$') (r : List Char) :
    readRepeats (fuel + 1) caseless item (c :: r) = some (item, c :: r) := by
  have hskip : caseless.skip (c :: r) = c :: r := rfl
  unfold readRepeats
  rw [hskip]
  split
  case h_5 => rfl
  all_goals
    rename_i h
    cases h
    exact absurd hc (by decide)

/-- Nothing is repeated in front of a plain name and its end. -/
theorem readRepeats_name (fuel : Nat) (item : Option Pattern) {name : List Char}
    (hname : ∀ c ∈ name, IsPlain c) :
    readRepeats (fuel + 1) caseless item (name ++ ['$']) = some (item, name ++ ['$']) := by
  cases name with
  | nil => exact readRepeats_plain fuel item (Or.inr rfl) []
  | cons c r => exact readRepeats_plain fuel item (Or.inl (hname c List.mem_cons_self)) _

/-- A plain character joins what was read before it. -/
theorem readBranch_cons (names : List (List Char)) (fuel : Nat) (sofar : Pattern) {c : Char}
    (hc : IsPlain c) {name : List Char} (hname : ∀ d ∈ name, IsPlain d) :
    readBranch (fuel + 2) caseless names sofar (c :: (name ++ ['$'])) =
      readBranch (fuel + 1) caseless names (.seq sofar (literal caseless c)) (name ++ ['$']) := by
  have hskip : caseless.skip (c :: (name ++ ['$'])) = c :: (name ++ ['$']) := rfl
  rw [readBranch, hskip]
  split
  case h_4 =>
    rw [readOne_plain fuel caseless names hc, Option.bind_some]
    show (readRepeats _ caseless _ (name ++ ['$'])).bind _ = _
    rw [readRepeats_name _ _ hname]
    rfl
  all_goals
    rename_i h
    cases h
  all_goals exact absurd hc (by decide)

theorem readBranch_plain (names : List (List Char)) (fuel : Nat) {name : List Char}
    (hname : ∀ c ∈ name, IsPlain c) (sofar : Pattern) :
    readBranch (fuel + name.length + 3) caseless names sofar (name ++ ['$']) =
      some ⟨.seq (spelled sofar name) (.position .textEnd), caseless, [], names⟩ := by
  induction name generalizing sofar with
  | nil => rfl
  | cons c name ih =>
    obtain ⟨hc, hr⟩ := List.forall_mem_cons.mp hname
    exact (readBranch_cons names (fuel + name.length + 2) sofar hc hr).trans (ih hr _)

theorem parse?_whole {name : String} (hname : ∀ c ∈ name.toList, IsPlain c) :
    parse? ("(?i)^" ++ name ++ "$") = some (whole name.toList) := by
  have htext : ("(?i)^" ++ name ++ "$").toList =
      '(' :: '?' :: 'i' :: ')' :: '^' :: (name.toList ++ ['$']) := by
    simp
  have hlength : ("(?i)^" ++ name ++ "$").length = name.toList.length + 6 := by
    rw [← String.length_toList, htext]
    simp
  have hfuel : 4 * (name.toList.length + 6) + 8 =
      3 * name.toList.length + 26 + name.toList.length + 3 + 3 := by omega
  unfold parse?
  rw [htext, hlength, hfuel]
  -- The flags, and then the start of the text.
  show (((readRepeats _ caseless _ (name.toList ++ ['$'])).bind _).bind _).bind _ = _
  rw [readRepeats_name _ _ hname]
  show ((readBranch (3 * name.toList.length + 26 + name.toList.length + 3) caseless [] _ _).bind _).bind
    _ = _
  rw [readBranch_plain [] _ hname]
  rfl

/-! ## Where plain names are found -/

theorem lower_ascii : ∀ n < 128, (Text.asciiLower (Char.ofNat n)).toNat < 128 := by decide +kernel

theorem has_ascii : ∀ n < 128, ∀ m < 128, IsPlain (Char.ofNat n) →
    Text.asciiLower (Char.ofNat m) = Text.asciiLower (Char.ofNat n) →
      (CharSet.folded (.single (Char.ofNat n))).has (Char.ofNat m) = true := by
  decide +kernel

theorem toNat_le_asciiLower (c : Char) : c.toNat ≤ (Text.asciiLower c).toNat := by
  unfold Text.asciiLower
  split
  · rename_i hc
    have hle : c.toNat ≤ 90 := hc.2
    rw [Text.toNat_ofNat (Or.inl (by omega))]
    omega
  · exact Nat.le_refl _

theorem ascii_of_plain {c : Char} (hc : IsPlain c) : c.toNat < 128 := by
  have hle : ∀ d : Char, d.toNat < 128 → c ≤ d → c.toNat < 128 :=
    fun _ hd h => Nat.lt_of_le_of_lt h hd
  rcases hc with ⟨-, h⟩ | ⟨-, h⟩ | ⟨-, h⟩ | rfl
  · exact hle 'Z' (by decide) h
  · exact hle 'z' (by decide) h
  · exact hle '9' (by decide) h
  · decide

/-- A plain character, read without regard to case, matches all that differ from it in case. -/
theorem has_literal {c d : Char} (hc : IsPlain c) (h : Text.asciiLower d = Text.asciiLower c) :
    (CharSet.folded (.single c)).has d = true := by
  have hlower := lower_ascii c.toNat (ascii_of_plain hc)
  have hd : d.toNat < 128 := by
    have hle := toNat_le_asciiLower d
    rw [Char.ofNat_toNat, ← h] at hlower
    omega
  have hhas := has_ascii c.toNat (ascii_of_plain hc) d.toNat hd
  rw [Char.ofNat_toNat, Char.ofNat_toNat] at hhas
  exact hhas hc h

theorem mem_ends_spelled {text : List Char} : ∀ {name rest : List Char} {sofar : Pattern} {n k : Nat},
    (∀ c ∈ name, IsPlain c) → k ∈ ends text sofar n → text.drop k = rest →
      rest.map Text.asciiLower = name.map Text.asciiLower →
        k + name.length ∈ ends text (spelled sofar name) n
  | [], _, sofar, n, k, _, hk, _, _ => hk
  | c :: name, [], sofar, n, k, _, _, _, h => by cases h
  | c :: name, d :: rest, sofar, n, k, hname, hk, hdrop, h => by
    obtain ⟨hc, hr⟩ := List.forall_mem_cons.mp hname
    obtain ⟨hd, hrest⟩ := List.cons_eq_cons.mp h
    have hat : text[k]? = some d := by
      rw [← List.head?_drop, hdrop]
      rfl
    have hnext : k + 1 ∈ ends text (.seq sofar (literal caseless c)) n :=
      mem_ends_seq.mpr ⟨k, hk, mem_ends_char hat (has_literal hc hd)⟩
    have hdrop' : text.drop (k + 1) = rest := by
      rw [← List.drop_drop, hdrop]
      rfl
    have ih := mem_ends_spelled hr hnext hdrop' hrest
    rw [List.length_cons, Nat.add_comm name.length 1, ← Nat.add_assoc]
    exact ih

theorem isIn_whole {name : List Char} (hname : ∀ c ∈ name, IsPlain c) {s : String}
    (hs : s.toList.map Text.asciiLower = name.map Text.asciiLower) : (whole name).isIn s = true := by
  have hlength : name.length = s.toList.length := by
    rw [← List.length_map Text.asciiLower, ← hs, List.length_map]
  have hstart : 0 ∈ ends s.toList (.seq .empty (.position .textStart)) 0 :=
    mem_ends_seq.mpr ⟨0, List.mem_singleton_self 0, mem_ends_position rfl⟩
  have hend : 0 + name.length ∈ ends s.toList (.position .textEnd) (0 + name.length) := by
    refine mem_ends_position ?_
    rw [Nat.zero_add, hlength, List.getElem?_eq_none (Nat.le_refl _)]
    rfl
  exact isIn_of_mem_ends (Nat.zero_le _)
    (mem_ends_seq.mpr ⟨_, mem_ends_spelled hname hstart rfl hs, hend⟩)

/-! ## The library -/

theorem mem_parseAll? {p : Pattern} : ∀ {texts : List String} {ps : List Pattern},
    parseAll? texts = some ps → (p ∈ ps ↔ ∃ t ∈ texts, parse? t = some p)
  | [], ps, h => by
    cases h
    simp
  | t :: texts, ps, h => by
    unfold parseAll? at h
    obtain ⟨q, hq, h⟩ := Option.bind_eq_some_iff.mp h
    obtain ⟨qs, hqs, h⟩ := Option.bind_eq_some_iff.mp h
    cases h
    rw [List.mem_cons, mem_parseAll? hqs]
    simp [hq, eq_comm]

theorem parse?_of_mem {t : String} : ∀ {texts : List String} {ps : List Pattern},
    parseAll? texts = some ps → t ∈ texts → ∃ p, parse? t = some p
  | u :: texts, ps, h, ht => by
    unfold parseAll? at h
    obtain ⟨q, hq, h⟩ := Option.bind_eq_some_iff.mp h
    obtain ⟨qs, hqs, -⟩ := Option.bind_eq_some_iff.mp h
    rcases List.mem_cons.mp ht with rfl | ht
    · exact ⟨q, hq⟩
    · exact parse?_of_mem hqs ht

/-- A single text makes a set of one pattern. -/
theorem compile_singleton {t : String} {alone : String → Bool} :
    library.compile [t] = some alone ↔ ∃ p, parse? t = some p ∧ alone = p.isIn := by
  cases ht : parse? t with
  | none => simp [library, parseAll?, ht]
  | some p => simp [library, parseAll?, ht, funext_iff, eq_comm]

/-- **The library is lawful.** -/
theorem library_lawful : library.Lawful where
  members {texts found} h {t} ht := by
    obtain ⟨ps, hps, -⟩ := Option.map_eq_some_iff.mp h
    obtain ⟨p, hp⟩ := parse?_of_mem hps ht
    exact ⟨p.isIn, compile_singleton.mpr ⟨p, hp, rfl⟩⟩
  union {texts found} h s := by
    obtain ⟨ps, hps, rfl⟩ := Option.map_eq_some_iff.mp h
    simp only [List.any_eq_true, mem_parseAll? hps, compile_singleton]
    constructor
    · rintro ⟨p, ⟨t, ht, hp⟩, hfound⟩
      exact ⟨t, ht, p.isIn, ⟨p, hp, rfl⟩, hfound⟩
    · rintro ⟨t, ht, _, ⟨p, hp, rfl⟩, hfound⟩
      exact ⟨p, ⟨t, ht, hp⟩, hfound⟩
  caseless {name} hname {alone} h {s} hs := by
    obtain ⟨p, hp, rfl⟩ := compile_singleton.mp h
    rw [parse?_whole hname] at hp
    cases hp
    exact isIn_whole hname hs

end Failover.Pattern
