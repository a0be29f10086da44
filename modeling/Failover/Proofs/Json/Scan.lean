import Failover.Json.Token
import Failover.Proofs.Text
/-!
# Tokens of written values

* `Json.scanString_quoted` : a text between quotes is read back, whatever characters are in it;
* `Json.scanNumeral_decimal` : so are decimal digits, if the text does not go on with the number;
* `Json.Plain` : values all of whose numbers are whole ones of 64 bits;
* `Json.scan_chars` : the tokens of the text of such a value are the tokens of the value.
-/

set_option autoImplicit false

namespace Failover.Json

/-! ## Texts -/

/-- A character stands for itself, behind a backslash, or as the four digits of its code. -/
theorem escaped_cases (c : Char) :
    (∃ e, escape? e = some c ∧ escaped c = ['\\', e]) ∨
      (c.toNat < 0x20 ∧ escaped c =
        ['\\', 'u', '0', '0', Text.hexDigit (c.toNat / 16), Text.hexDigit (c.toNat % 16)]) ∨
      (¬ c.toNat < 0x20 ∧ c ≠ '"' ∧ c ≠ '\\' ∧ escaped c = [c]) := by
  by_cases hquote : c = '"'
  · subst hquote
    exact .inl ⟨'"', rfl, rfl⟩
  by_cases hback : c = '\\'
  · subst hback
    exact .inl ⟨'\\', rfl, rfl⟩
  unfold escaped
  rw [if_neg hquote, if_neg hback]
  split
  · subst c
    exact .inl ⟨'n', rfl, rfl⟩
  split
  · subst c
    exact .inl ⟨'r', rfl, rfl⟩
  split
  · subst c
    exact .inl ⟨'t', rfl, rfl⟩
  split
  · subst c
    exact .inl ⟨'b', rfl, rfl⟩
  split
  · subst c
    exact .inl ⟨'f', rfl, rfl⟩
  split
  · rename_i hlow
    exact .inr (.inl ⟨hlow, rfl⟩)
  · rename_i hhigh
    exact .inr (.inr ⟨hhigh, hquote, hback, rfl⟩)

theorem scanString_escape {c e : Char} (h : escape? e = some c) (rest : List Char) :
    scanString ('\\' :: e :: rest) = (scanString rest).map fun p => (.char c :: p.1, p.2) := by
  have hu : e ≠ 'u' := by
    rintro rfl
    cases h
  rw [scanString]
  · rw [h]
    cases scanString rest <;> rfl
  · intro _ _ _ _ _ he
    exact absurd he hu

theorem hex4?_low : ∀ n, n < 0x20 →
    hex4? '0' '0' (Text.hexDigit (n / 16)) (Text.hexDigit (n % 16)) = some n := by decide

theorem unit_low {c : Char} (h : c.toNat < 0x20) : unit c.toNat = .char c := by
  rw [unit, if_neg (by omega), Char.ofNat_toNat]

theorem scanString_escaped (c : Char) (rest : List Char) :
    scanString (escaped c ++ rest) =
      (scanString rest).map fun p => (.char c :: p.1, p.2) := by
  rcases escaped_cases c with ⟨e, he, htext⟩ | ⟨hlow, htext⟩ | ⟨hhigh, hquote, hback, htext⟩
  · rw [htext]
    exact scanString_escape he rest
  · rw [htext]
    show scanString ('\\' :: 'u' :: _ :: _ :: _ :: _ :: rest) = _
    rw [scanString, hex4?_low _ hlow]
    show (scanString rest >>= _) = _
    rw [unit_low hlow]
    cases scanString rest <;> rfl
  · rw [htext, List.singleton_append, scanString]
    · rw [if_neg (by simp [hhigh, hback])]
      cases scanString rest <;> rfl
    · exact hquote
    · exact fun _ _ _ _ _ hc => absurd hc hback
    · exact fun _ _ hc => absurd hc hback

/-- **A text between quotes is read back.** -/
theorem scanString_quoted (s rest : List Char) :
    scanString (s.flatMap escaped ++ '"' :: rest) = some (s.map Unit16.char, rest) := by
  induction s with
  | nil => rw [List.flatMap_nil, List.nil_append, scanString, List.map_nil]
  | cons c s ih =>
    rw [List.flatMap_cons, List.append_assoc, scanString_escaped, ih]
    rfl

theorem paired_map_char (s : List Char) : paired (s.map Unit16.char) = some s := by
  induction s with
  | nil => rfl
  | cons c s ih => rw [List.map_cons, paired, ih, Option.map_some]

/-! ## Numbers -/

/-- The text does not go on with a number. -/
def EndsNumber (rest : List Char) : Prop :=
  ∀ c ∈ rest.head?, c.isDigit = false ∧ c ≠ '.' ∧ c ≠ 'e' ∧ c ≠ 'E'

variable {rest : List Char}

theorem scanBehind_of_endsNumber (h : EndsNumber rest) : scanBehind rest = some (none, rest) := by
  unfold scanBehind
  split
  · exact absurd rfl (h _ rfl).2.1
  · rfl

theorem scanExponent_of_endsNumber (h : EndsNumber rest) :
    scanExponent rest = some (none, rest) := by
  cases rest with
  | nil => rfl
  | cons c r =>
    obtain ⟨-, -, hlower, hupper⟩ := h c rfl
    exact if_neg (by simp [hlower, hupper])

theorem digits?_decimal (n : Nat) (h : EndsNumber rest) :
    digits? (Text.decimal n ++ rest) = some (Text.decimal n, rest) := by
  obtain ⟨htake, hdrop⟩ := Text.span_append (s := Text.decimal n)
    (fun d hd => Text.isDigit_of_mem_decimal hd) (fun c hc => (h c hc).1)
  rw [digits?, List.span_eq_takeWhile_dropWhile, htake, hdrop]
  split
  · rename_i heq
    exact absurd (congrArg Prod.fst heq) Nat.toDigits_ne_nil
  · rfl

/-- A decimal numeral starts with a digit. -/
theorem decimal_cons (n : Nat) : ∃ d ds, Text.decimal n = d :: ds ∧ d.isDigit = true := by
  obtain ⟨d, ds, hd⟩ := List.exists_cons_of_ne_nil (l := Text.decimal n) Nat.toDigits_ne_nil
  exact ⟨d, ds, hd, Text.isDigit_of_mem_decimal (n := n) (hd ▸ List.mem_cons_self)⟩

/-- **Decimal digits are a number without a sign, a point and an exponent.** -/
theorem scanNumeral_decimal (n : Nat) (h : EndsNumber rest) :
    scanNumeral (Text.decimal n ++ rest) = some (⟨false, Text.decimal n, none, none⟩, rest) := by
  unfold scanNumeral
  split
  rename_i minus s heq
  split at heq
  · rename_i r htext
    obtain ⟨d, ds, hd, hdigit⟩ := decimal_cons n
    rw [hd] at htext
    cases htext
    cases hdigit
  · cases heq
    rw [digits?_decimal n h]
    show (if _ then none else _) = _
    rw [if_neg (Text.decimal_leading n), scanBehind_of_endsNumber h]
    show (scanExponent rest >>= _) = _
    rw [scanExponent_of_endsNumber h]
    rfl

/-- A numeral of few digits is not too large for floating point. -/
theorem isTooLarge_eq_false {x : Numeral}
    (h : ((x.whole ++ x.behind.getD []).length : Int) + x.exponent.getD 0 < 300) :
    x.isTooLarge = false := by
  unfold Numeral.isTooLarge
  extract_lets behind e size limit
  have hsize : size ≤ (x.whole ++ behind).length := (List.dropWhile_sublist _).length_le
  have hall : ((x.whole ++ behind).length : Int) + x.exponent.getD 0 < 300 := h
  split
  · rfl
  · split
    · rfl
    · rw [if_neg (by omega), if_pos (by omega)]

theorem isTooLarge_decimal {n : Nat} (h : n < 18446744073709551616) :
    Numeral.isTooLarge ⟨false, Text.decimal n, none, none⟩ = false := by
  have hlength : (Text.decimal n).length ≤ 20 :=
    (Nat.length_toDigits_le_iff (by decide) (by decide)).mpr (Nat.lt_trans h (by decide))
  have hlt : ((Text.decimal n).length : Int) < 300 := by omega
  apply isTooLarge_eq_false
  simpa using hlt

theorem number?_decimal {n : Nat} (h : n < 18446744073709551616) :
    Numeral.number? ⟨false, Text.decimal n, none, none⟩ = some (.natural n) := by
  unfold Numeral.number?
  rw [isTooLarge_decimal h]
  simp only [Text.number?_decimal]
  exact if_pos h

/-! ## Tokens -/

theorem scanToken_string (s : String) (rest : List Char) :
    scanToken (quoted s ++ rest) = some (.string (some s), rest) := by
  have htext : quoted s ++ rest = '"' :: (s.toList.flatMap escaped ++ '"' :: rest) := by
    simp [quoted]
  rw [htext, scanToken, scanString_quoted, Option.map_some, paired_map_char, Option.map_some,
    String.ofList_toList]

theorem scanToken_natural {n : Nat} (hn : n < 18446744073709551616) (h : EndsNumber rest) :
    scanToken (Text.decimal n ++ rest) = some (.number (some (.natural n)), rest) := by
  have hnumeral := scanNumeral_decimal n h
  obtain ⟨d, ds, hd, hdigit⟩ := decimal_cons n
  have hdefault : scanToken (Text.decimal n ++ rest) =
      (scanNumeral (Text.decimal n ++ rest)).map fun p => (.number p.1.number?, p.2) := by
    rw [hd, List.cons_append]
    unfold scanToken
    split
    case h_11 => rfl
    -- No other token starts with a digit.
    all_goals
      rename_i heq
      obtain ⟨rfl, -⟩ := List.cons.inj heq
      cases hdigit
  rw [hdefault, hnumeral, Option.map_some, number?_decimal hn]

/-- The text in front of `rest` is that of the tokens. -/
structure Spells (s : List Char) (ts : List Token) (rest : List Char) : Prop where
  scanned : ∀ fuel, scanAll (ts.length + fuel) (s ++ rest) = ts ++ scanAll fuel rest
  length_le : ts.length ≤ s.length

namespace Spells

variable {s s' : List Char} {ts ts' : List Token}

theorem append (h : Spells s ts (s' ++ rest)) (h' : Spells s' ts' rest) :
    Spells (s ++ s') (ts ++ ts') rest := by
  refine ⟨fun fuel => ?_, ?_⟩
  · rw [List.append_assoc, List.length_append, Nat.add_assoc, h.scanned, h'.scanned,
      List.append_assoc]
  · rw [List.length_append, List.length_append]
    exact Nat.add_le_add h.length_le h'.length_le

/-- The text of one token, which no space comes before. -/
theorem token {c : Char} {t : Token} (h : scanToken (c :: s ++ rest) = some (t, rest))
    (hspace : isSpace c = false) : Spells (c :: s) [t] rest := by
  refine ⟨fun fuel => ?_, Nat.le_add_left 1 _⟩
  have hdrop : (c :: s ++ rest).dropWhile isSpace = c :: s ++ rest :=
    List.dropWhile_cons_of_neg (Bool.eq_false_iff.mp hspace)
  rw [List.length_singleton, Nat.add_comm 1 fuel, scanAll, hdrop]
  simp only [List.cons_append] at h ⊢
  rw [h]
  rfl

/-- One mark in front of tokens. -/
theorem mark {c : Char} {t : Token} (h : ∀ r, scanToken (c :: r) = some (t, r))
    (hspace : isSpace c = false) (hs : Spells s ts rest) : Spells (c :: s) (t :: ts) rest :=
  (token (s := []) (h _) hspace).append hs

theorem string (s : String) (rest : List Char) : Spells (quoted s) [.string (some s)] rest :=
  token (scanToken_string s rest) rfl

theorem natural {n : Nat} (hn : n < 18446744073709551616) (h : EndsNumber rest) :
    Spells (Text.decimal n) [.number (some (.natural n))] rest := by
  have htoken := scanToken_natural hn h
  obtain ⟨d, ds, hd, hdigit⟩ := decimal_cons n
  rw [hd] at htoken ⊢
  refine token htoken ?_
  simp only [isSpace, Bool.or_eq_false_iff, beq_eq_false_iff_ne]
  refine ⟨⟨⟨?_, ?_⟩, ?_⟩, ?_⟩ <;> (rintro rfl; cases hdigit)

/-- The name of a field in front of its value. -/
theorem field (k : String) (hs : Spells s ts rest) :
    Spells (quoted k ++ ':' :: s) (.string (some k) :: .colon :: ts) rest :=
  (string k _).append (mark (fun _ => rfl) rfl hs)

end Spells

/-! ## Values -/

mutual

/-- All numbers in the value are whole ones of 64 bits. -/
def Plain : Json → Prop
  | number (.natural n) => n < 18446744073709551616
  | number _ => False
  | array items => PlainItems items
  | object fields => PlainFields fields
  | _ => True

/-- All items are plain. -/
def PlainItems : List Json → Prop
  | [] => True
  | v :: r => Plain v ∧ PlainItems r

/-- The values of all fields are plain. -/
def PlainFields : List (String × Json) → Prop
  | [] => True
  | (_, v) :: r => Plain v ∧ PlainFields r

end

theorem PlainFields.append : ∀ {fs gs : List (String × Json)}, PlainFields fs → PlainFields gs →
    PlainFields (fs ++ gs)
  | [], _, _, hgs => hgs
  | _ :: _, _, hfs, hgs => ⟨hfs.1, PlainFields.append hfs.2 hgs⟩

theorem endsNumber_items (vs : List Json) (rest : List Char) :
    EndsNumber (charsOfItems vs ++ rest) := by
  intro c hc
  cases vs <;> (rw [charsOfItems] at hc; cases hc; decide)

theorem endsNumber_fields (fs : List (String × Json)) (rest : List Char) :
    EndsNumber (charsOfFields fs ++ rest) := by
  intro c hc
  rcases fs with - | ⟨⟨k, v⟩, r⟩ <;> (rw [charsOfFields] at hc; cases hc; decide)

-- By recursion on the value. A number ends where something else starts, so what may stand behind a value
-- is part of the statement; behind the end of a list or an object it may be anything.
mutual

theorem spells_chars : ∀ {v : Json}, Plain v → ∀ {rest : List Char}, EndsNumber rest →
    Spells (chars v) (tokens v) rest
  | .null, _, _, _ => Spells.token rfl rfl
  | .bool true, _, _, _ => Spells.token rfl rfl
  | .bool false, _, _, _ => Spells.token rfl rfl
  | .number (.natural _), hv, _, hrest => Spells.natural hv hrest
  | .string s, _, rest, _ => Spells.string s rest
  | .array [], _, _, _ => Spells.mark (fun _ => rfl) rfl (Spells.token rfl rfl)
  | .array (v :: r), hv, rest, _ => by
    have hvalue := spells_chars hv.1 (endsNumber_items r rest)
    exact Spells.mark (fun _ => rfl) rfl (hvalue.append (spells_items hv.2))
  | .object [], _, _, _ => Spells.mark (fun _ => rfl) rfl (Spells.token rfl rfl)
  | .object ((k, v) :: r), hv, rest, _ => by
    have hvalue := spells_chars hv.1 (endsNumber_fields r rest)
    simp only [chars, tokens, List.cons_append, List.append_assoc]
    exact Spells.mark (fun _ => rfl) rfl (Spells.field k (hvalue.append (spells_fields hv.2)))

theorem spells_items : ∀ {vs : List Json}, PlainItems vs → ∀ {rest : List Char},
    Spells (charsOfItems vs) (tokensOfItems vs) rest
  | [], _, _ => Spells.token rfl rfl
  | v :: r, hvs, rest => by
    have hvalue := spells_chars hvs.1 (endsNumber_items r rest)
    exact Spells.mark (fun _ => rfl) rfl (hvalue.append (spells_items hvs.2))

theorem spells_fields : ∀ {fs : List (String × Json)}, PlainFields fs → ∀ {rest : List Char},
    Spells (charsOfFields fs) (tokensOfFields fs) rest
  | [], _, _ => Spells.token rfl rfl
  | (k, v) :: r, hfs, rest => by
    have hvalue := spells_chars hfs.1 (endsNumber_fields r rest)
    simp only [charsOfFields, tokensOfFields, List.cons_append, List.append_assoc]
    exact Spells.mark (fun _ => rfl) rfl (Spells.field k (hvalue.append (spells_fields hfs.2)))

end

/-- **The tokens of the text of a value are the tokens of the value.** -/
theorem scan_chars {v : Json} (h : Plain v) : scan (chars v) = tokens v := by
  have hend : EndsNumber [] := fun c hc => by cases hc
  have hspells := spells_chars h hend
  have hscanned := hspells.scanned ((chars v).length - (tokens v).length)
  have hnone : ∀ fuel, scanAll fuel [] = [] := by
    intro fuel
    cases fuel <;> rfl
  rw [List.append_nil, Nat.add_sub_cancel' hspells.length_le, hnone, List.append_nil] at hscanned
  exact hscanned

end Failover.Json
