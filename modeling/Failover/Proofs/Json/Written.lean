import Failover.Json.Reader
import Failover.Proofs.Url.Authority
/-!
# Reading written values

* `Json.ReadsAs` : a reader reads the tokens of a value, whatever follows them, and one lemma for each
  reader;
* `Json.TakesIn` : a step that takes in the fields of an object one after the other;
  `Json.readFields_of_takesIn` : so does reading the object;
* `Json.readFields_keeps`, `Json.readPlaces_keeps` : what every step keeps, reading a record keeps.
-/

set_option autoImplicit false

namespace Failover.Json

/-- The reader reads the value as `a`, whatever stands behind it. -/
def ReadsAs {α : Type} (read : Reader α) (v : Json) (a : α) : Prop :=
  ∀ rest, read (v.tokens ++ rest) = .ok (a, rest)

theorem readsAs_string (s : String) : ReadsAs readString (.string s) s := fun _ => rfl

theorem readsAs_bool (b : Bool) : ReadsAs readBool (.bool b) b := fun _ => rfl

theorem readsAs_nat {bound n : Nat} (h : n < bound) : ReadsAs (readNat bound) (.ofNat n) n :=
  fun _ => if_pos h

theorem readsAs_some (s : String) : ReadsAs (readOption readString) (.string s) (some s) :=
  fun _ => rfl

theorem readsAs_case {α : Type} {case? : String → Option α} {s : String} {a : α}
    (h : case? s = some a) : ReadsAs (readCase case?) (.string s) a := by
  intro rest
  show readCase case? (.string (some s) :: rest) = _
  rw [readCase, h]

theorem readsAs_number (used : Nat) (n : Number) :
    ReadsAs (readValue used) (.number n) (.number n) :=
  fun _ => rfl

/-! ## Lists -/

/-- No value starts with the end of an array. -/
theorem tokens_append_ne (v : Json) (ts r : List Token) : tokens v ++ ts ≠ .closeArray :: r := by
  intro h
  unfold tokens at h
  split at h <;> cases h

theorem length_lt_tokensOfItems (vs : List Json) : vs.length < (tokensOfItems vs).length := by
  induction vs with
  | nil => exact Nat.one_pos
  | cons v vs ih =>
    rw [tokensOfItems, List.length_append, List.length_cons, List.length_cons]
    omega

section Lists

variable {α β : Type} {read : Reader β} {write : α → Json} {f : α → β}
  (h : ∀ a, ReadsAs read (write a) (f a))
include h

theorem readItems_map (rest : List Token) : ∀ (as : List α) (fuel : Nat), as.length < fuel →
    readItems read fuel (tokensOfItems (as.map write) ++ rest) = .ok (as.map f, rest)
  | _, 0, hfuel => absurd hfuel (Nat.not_lt_zero _)
  | [], _ + 1, _ => rfl
  | a :: as, fuel + 1, hfuel => by
    rw [List.map_cons, tokensOfItems, List.cons_append, List.cons_append, List.append_assoc, readItems,
      h a]
    show (readItems read fuel (tokensOfItems (as.map write) ++ rest) >>= _) = _
    rw [readItems_map rest as fuel (Nat.lt_of_succ_lt_succ hfuel)]
    rfl

/-- A list is read if each of its values is. -/
theorem readsAs_list (as : List α) : ReadsAs (readList read) (.array (as.map write)) (as.map f) := by
  intro rest
  cases as with
  | nil => rfl
  | cons a as =>
    have hfuel : as.length < (tokensOfItems (as.map write) ++ rest).length := by
      have hlt := length_lt_tokensOfItems (as.map write)
      rw [List.length_map] at hlt
      rw [List.length_append]
      omega
    rw [List.map_cons, tokens, List.cons_append, List.cons_append, List.append_assoc, readList, h a]
    · show (readItems read _ (tokensOfItems (as.map write) ++ rest) >>= _) = _
      rw [readItems_map h rest as _ hfuel]
      rfl
    · exact tokens_append_ne (write a) _

end Lists

/-! ## Objects -/

variable {σ : Type} {step : σ → String → List Token → Except Mistake (σ × List Token)}

/-- From one state to another, the step takes in the fields one after the other. -/
inductive TakesIn (step : σ → String → List Token → Except Mistake (σ × List Token)) :
    σ → List (String × Json) → σ → Prop where
  | nil (s : σ) : TakesIn step s [] s
  | cons {s t u : σ} {k : String} {v : Json} {fs : List (String × Json)}
      (first : ∀ rest, step s k (.colon :: (v.tokens ++ rest)) = .ok (t, rest))
      (others : TakesIn step t fs u) : TakesIn step s ((k, v) :: fs) u

theorem TakesIn.append {s t u : σ} {fs gs : List (String × Json)} (h : TakesIn step s fs t)
    (h' : TakesIn step t gs u) : TakesIn step s (fs ++ gs) u := by
  induction h with
  | nil s => exact h'
  | cons first _ ih => exact .cons first (ih h')

theorem length_lt_tokensOfFields (fs : List (String × Json)) :
    fs.length < (tokensOfFields fs).length := by
  induction fs with
  | nil => exact Nat.one_pos
  | cons f fs ih =>
    rw [tokensOfFields, List.length_append, List.length_cons, List.length_cons, List.length_cons,
      List.length_cons]
    omega

theorem readMoreFields_of_takesIn {s u : σ} {fs : List (String × Json)} (h : TakesIn step s fs u)
    (rest : List Token) : ∀ fuel, fs.length < fuel →
      readMoreFields step fuel s (tokensOfFields fs ++ rest) = .ok (u, rest) := by
  induction h with
  | nil s =>
    intro fuel hfuel
    cases fuel with
    | zero => cases hfuel
    | succ fuel => rfl
  | @cons s t u k v fs first _ ih =>
    intro fuel hfuel
    cases fuel with
    | zero => cases hfuel
    | succ fuel =>
      rw [tokensOfFields]
      simp only [List.cons_append, List.append_assoc]
      rw [readMoreFields]
      rw [first]
      exact ih fuel (Nat.lt_of_succ_lt_succ hfuel)

/-- **The fields of an object are taken in one after the other.** -/
theorem readFields_of_takesIn {s u : σ} {fs : List (String × Json)} (h : TakesIn step s fs u)
    (rest : List Token) :
    ∃ ts, tokens (.object fs) ++ rest = .openObject :: ts ∧ readFields step s ts = .ok (u, rest) := by
  cases h with
  | nil => exact ⟨_, rfl, rfl⟩
  | @cons _ t _ k v fs first others => 
    refine ⟨_, rfl, ?_⟩
    have hfuel : fs.length < (tokensOfFields fs ++ rest).length := by
      have hlt := length_lt_tokensOfFields fs
      rw [List.length_append]
      omega
    show readFields step s (.string (some k) :: .colon :: (tokens v ++ tokensOfFields fs) ++ rest) = _
    simp only [List.cons_append, List.append_assoc]
    rw [readFields, first]
    exact readMoreFields_of_takesIn others rest _ hfuel

/-! ## What every step keeps -/

section Keeps

variable {P : σ → Prop}
  (hstep : ∀ {s t : σ} {k : String} {ts r : List Token}, P s → step s k ts = .ok (t, r) → P t)
include hstep

theorem readMoreFields_keeps : ∀ (fuel : Nat) {s t : σ} {ts r : List Token}, P s →
    readMoreFields step fuel s ts = .ok (t, r) → P t
  | 0, _, _, _, _, _, h => by cases h
  | fuel + 1, s, t, ts, r, hs, h => by
    unfold readMoreFields at h
    split at h
    · cases h
      exact hs
    · obtain ⟨⟨u, r'⟩, hu, h⟩ := ok_of_bind h
      exact readMoreFields_keeps fuel (hstep hs hu) h
    · cases h

theorem readFields_keeps {s t : σ} {ts r : List Token} (hs : P s)
    (h : readFields step s ts = .ok (t, r)) : P t := by
  unfold readFields at h
  split at h
  · cases h
    exact hs
  · obtain ⟨⟨u, r'⟩, hu, h⟩ := ok_of_bind h
    exact readMoreFields_keeps hstep _ (hstep hs hu) h
  · cases h

theorem readPlaced_keeps : ∀ (names : List String) {s t : σ} {ts r : List Token}, P s →
    readPlaced step names s ts = .ok (t, r) → P t
  | [], s, t, ts, r, hs, h => by
    unfold readPlaced at h
    split at h
    · cases h
      exact hs
    · cases h
    · rename_i hnames
      cases hnames
  | name :: names, s, t, ts, r, hs, h => by
    unfold readPlaced at h
    split at h
    · cases h
      exact hs
    · obtain ⟨⟨u, r'⟩, hu, h⟩ := ok_of_bind h
      exact readPlaced_keeps names (hstep hs hu) h
    · cases h

theorem readPlaces_keeps {names : List String} {s t : σ} {ts r : List Token} (hs : P s)
    (h : readPlaces step names s ts = .ok (t, r)) : P t := by
  unfold readPlaces at h
  split at h
  · cases h
    exact hs
  · exact readPlaced_keeps hstep names hs h

end Keeps

end Failover.Json
