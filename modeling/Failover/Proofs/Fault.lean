import Failover.Fault
/-!
# Faults under added context

* `Fault.under` : a fault below any number of added contexts.  `Fault.exists_under`: every fault is
  its root under some.  `Fault.isIo_under`, `Fault.isUncertain_under`: contexts do not change what a
  fault is found to be;
* `Fault.LeavesDoubt` : the faults after which the other side may have done the work, in so many
  words.  `Fault.isUncertain_iff`: they are the ones that are found uncertain;
* `Fault.isIo_of_leavesDoubt` : all of them are matters of input and output.
-/

set_option autoImplicit false

namespace Failover

namespace Text

theorem toNat_ofNat {n : Nat} (h : n.isValidChar) : (Char.ofNat n).toNat = n := by
  unfold Char.ofNat
  rw [dif_pos h]
  rfl

/-- The characters whose lower-case form is a small letter are that letter and its capital. -/
theorem asciiLower_eq_iff (c small capital : Char) (hs : 97 ≤ small.toNat ∧ small.toNat ≤ 122)
    (hc : capital.toNat + 32 = small.toNat) :
    asciiLower c = small ↔ c = small ∨ c = capital := by
  unfold asciiLower
  split
  · rename_i h
    have hlow : 65 ≤ c.toNat := h.1
    have hhigh : c.toNat ≤ 90 := h.2
    have hmoved : (Char.ofNat (c.toNat + 32)).toNat = c.toNat + 32 :=
      toNat_ofNat (Or.inl (by omega))
    constructor
    · intro heq
      rw [heq] at hmoved
      exact Or.inr (Char.toNat_inj.mp (by omega))
    · rintro (rfl | rfl)
      · omega
      · exact Char.toNat_inj.mp (by rw [hmoved, hc])
  · rename_i h
    constructor
    · exact Or.inl
    · rintro (rfl | rfl)
      · rfl
      · refine absurd ⟨?_, ?_⟩ h
        · show 65 ≤ c.toNat
          omega
        · show c.toNat ≤ 90
          omega

end Text

namespace Fault

/-- A fault below added contexts, the outermost of which comes first. -/
def under (contexts : List String) (f : Fault) : Fault := contexts.foldr wrapped f

/-- Added contexts do not change the root. -/
theorem root_under : ∀ (contexts : List String) (f : Fault), (under contexts f).root = f.root
  | [], _ => rfl
  | _ :: contexts, f => root_under contexts f

/-- So they do not change what is read off it. -/
theorem isIo_under (contexts : List String) (f : Fault) : (under contexts f).isIo = f.isIo := by
  rw [isIo, isIo, root_under]

theorem isUncertain_under (contexts : List String) (f : Fault) :
    (under contexts f).isUncertain = f.isUncertain := by
  rw [isUncertain, isUncertain, root_under]

/-- Every fault is its root under the contexts that were added to it. -/
theorem exists_under (f : Fault) : ∃ contexts, f = under contexts f.root := by
  induction f with
  | io | timeout | other => exact ⟨[], rfl⟩
  | wrapped context f ih =>
    obtain ⟨contexts, h⟩ := ih
    exact ⟨context :: contexts, congrArg (wrapped context) h⟩

/-- The four letters of `read`, each of them small or capital. -/
def SpellsRead (word : List Char) : Prop :=
  ∃ r e a d, word = [r, e, a, d] ∧ (r = 'r' ∨ r = 'R') ∧ (e = 'e' ∨ e = 'E') ∧
    (a = 'a' ∨ a = 'A') ∧ (d = 'd' ∨ d = 'D')

theorem spellsRead_iff (word : List Char) :
    SpellsRead word ↔ word.map Text.asciiLower = ['r', 'e', 'a', 'd'] := by
  have hr := fun c => Text.asciiLower_eq_iff c 'r' 'R' (by decide) (by decide)
  have he := fun c => Text.asciiLower_eq_iff c 'e' 'E' (by decide) (by decide)
  have ha := fun c => Text.asciiLower_eq_iff c 'a' 'A' (by decide) (by decide)
  have hd := fun c => Text.asciiLower_eq_iff c 'd' 'D' (by decide) (by decide)
  constructor
  · rintro ⟨r, e, a, d, rfl, h⟩
    simpa only [List.map_cons, List.map_nil, List.cons.injEq, and_true, hr, he, ha, hd] using h
  · intro h
    simp only [List.map_eq_cons_iff, List.map_eq_nil_iff, hr, he, ha, hd] at h
    obtain ⟨r, _, rfl, h₁, e, _, rfl, h₂, a, _, rfl, h₃, d, _, rfl, h₄, rfl⟩ := h
    exact ⟨r, e, a, d, rfl, h₁, h₂, h₃, h₄⟩

/-- A text mentions reading if the word stands somewhere in it, in letters of either case. -/
theorem mentionsRead_iff (text : String) :
    mentionsRead text = true ↔ ∃ word, SpellsRead word ∧ word <:+: text.toList := by
  unfold mentionsRead
  rw [Text.occurs_iff_isInfix, List.infix_map_iff]
  constructor
  · rintro ⟨word, hin, hw⟩
    exact ⟨word, (spellsRead_iff word).mpr hw.symm, hin⟩
  · rintro ⟨word, hw, hin⟩
    exact ⟨word, hin, ((spellsRead_iff word).mp hw).symm⟩

/-- The other side may have done the work: below all added context, the wait for the answer ran out,
    or input or output timed out and the text of it mentions reading. -/
def LeavesDoubt (f : Fault) : Prop :=
  ∃ contexts, f = under contexts (.timeout .read) ∨
    ∃ text, f = under contexts (.io .timedOut text) ∧
      ∃ word, SpellsRead word ∧ word <:+: text.toList

/-- **A fault is found uncertain exactly if it leaves doubt.** -/
theorem isUncertain_iff (f : Fault) : f.isUncertain = true ↔ f.LeavesDoubt := by
  constructor
  · intro h
    obtain ⟨contexts, hf⟩ := f.exists_under
    refine ⟨contexts, ?_⟩
    unfold isUncertain at h
    split at h
    · rename_i hroot
      exact Or.inl (hroot ▸ hf)
    · rename_i text hroot
      exact Or.inr ⟨text, hroot ▸ hf, (mentionsRead_iff text).mp h⟩
    · cases h
  · rintro ⟨contexts, rfl | ⟨text, rfl, hword⟩⟩
    · rw [isUncertain, root_under]
      rfl
    · rw [isUncertain, root_under]
      exact (mentionsRead_iff text).mpr hword

instance : DecidablePred LeavesDoubt := fun f => decidable_of_iff _ (isUncertain_iff f)

theorem isIo_of_leavesDoubt {f : Fault} (h : f.LeavesDoubt) : f.isIo = true := by
  obtain ⟨contexts, rfl | ⟨text, rfl, _⟩⟩ := h
  · rw [isIo, root_under]
    rfl
  · rw [isIo, root_under]
    rfl

end Fault

end Failover
