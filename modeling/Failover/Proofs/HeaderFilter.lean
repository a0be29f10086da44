import Failover.HeaderFilter
import Failover.Proofs.Client.Prepared
import Mathlib.Data.List.Induction
/-!
# What is told of headers

The headers that are told are a map, kept as a list in order of names.  It holds the last value of
every name that may be told, and knows of nothing else.

* `Headers.AgreeOn` : headers in which some names have the same values;
* `HeaderFilter.lookup_put`, `HeaderFilter.InOrder` : putting a value, and what it keeps of the list.
  `HeaderFilter.eq_of_lookup`: a list in order is determined by its look-ups;
* `HeaderFilter.lookup_visible` : what is told of a name.  `HeaderFilter.visible_congr`: headers whose
  visible names have the same values are told in the same way;
* `PatternLibrary.Lawful` : what is relied on of a library of regular expressions;
* `HeaderFilter.hides_more` : more patterns hide more names;
* `HeaderFilter.hides_userAgent` : what clients call themselves is always hidden.
-/

set_option autoImplicit false

namespace Failover

namespace Headers

theorem values_append (entries : List (HeaderName × HeaderValue)) (e : HeaderName × HeaderValue)
    (n : HeaderName) : values ⟨entries ++ [e]⟩ n =
      values ⟨entries⟩ n ++ if e.1 = n then [e.2] else [] := by
  unfold values
  by_cases hn : e.1 = n
  · simp [hn]
  · simp [hn]

theorem get?_eq_head? (h : Headers) (n : HeaderName) : h.get? n = (h.values n).head? := by
  rw [get?, values, List.head?_map, List.head?_filter]

/-- The names that are picked have the same values. -/
def AgreeOn (P : HeaderName → Bool) (h h' : Headers) : Prop :=
  ∀ n, P n = true → h'.values n = h.values n

variable {P Q : HeaderName → Bool} {h h' : Headers}

theorem AgreeOn.mono (hh : AgreeOn P h h') (hPQ : ∀ n, Q n = true → P n = true) : AgreeOn Q h h' :=
  fun n hn => hh n (hPQ n hn)

/-- Headers that agree do so after one is set, also in the one that is set. -/
theorem AgreeOn.set (hh : AgreeOn P h h') (n : HeaderName) (v : HeaderValue) :
    AgreeOn (fun m => P m || m == n) (h.set n v) (h'.set n v) := by
  intro m hm
  by_cases hn : m = n
  · rw [hn, values_set_self, values_set_self]
  · have hP : P m = true := by simpa [hn] using hm
    rw [values_set_of_ne _ _ hn, values_set_of_ne _ _ hn, hh m hP]

/-- To set a header that is not picked makes no difference. -/
theorem agreeOn_set {n : HeaderName} (hn : P n = false) (h : Headers) (v : HeaderValue) :
    AgreeOn P h (h.set n v) := by
  intro m hm
  refine values_set_of_ne h v ?_
  rintro rfl
  rw [hn] at hm
  cases hm

theorem AgreeOn.get? (hh : AgreeOn P h h') {n : HeaderName}
    (hn : P n = true) : h'.get? n = h.get? n := by
  rw [get?_eq_head?, get?_eq_head?, hh n hn]

end Headers

/-! ## Libraries of regular expressions -/

namespace PatternLibrary

/-- A letter or digit of ASCII, or a hyphen.  None of them means anything but itself in a pattern. -/
def IsPlain (c : Char) : Prop :=
  'A' ≤ c ∧ c ≤ 'Z' ∨ 'a' ≤ c ∧ c ≤ 'z' ∨ '0' ≤ c ∧ c ≤ '9' ∨ c = '-'

instance : DecidablePred IsPlain := fun c => inferInstanceAs (Decidable (_ ∨ _ ∨ _ ∨ c = '-'))

/-- What is relied on of a library.  The members of a set make sets of their own, and it is found where
    one of these is; a name of plain characters between `^` and `$`, without regard to case, is found in
    any text that differs from the name in the case of ASCII letters at most. -/
structure Lawful (library : PatternLibrary) : Prop where
  members {texts : List String} {found : String → Bool} (h : library.compile texts = some found)
    {t : String} (ht : t ∈ texts) : ∃ alone, library.compile [t] = some alone
  union {texts : List String} {found : String → Bool} (h : library.compile texts = some found)
    (s : String) : found s = true ↔
      ∃ t ∈ texts, ∃ alone, library.compile [t] = some alone ∧ alone s = true
  caseless {name : String} (hname : ∀ c ∈ name.toList, IsPlain c) {alone : String → Bool}
    (h : library.compile ["(?i)^" ++ name ++ "$"] = some alone) {s : String}
    (hs : s.toList.map Text.asciiLower = name.toList.map Text.asciiLower) : alone s = true

end PatternLibrary

namespace HeaderFilter

/-! ## Lists in order of names -/

theorem lookup_cons (k v x : String) (l : List (String × String)) :
    ((k, v) :: l).lookup x = if x = k then some v else l.lookup x := by
  by_cases hx : x = k
  · simp [hx]
  · have hbeq : (x == k) = false := beq_eq_false_iff_ne.mpr hx
    simp [List.lookup_cons, hbeq, hx]

theorem lookup_put (k v x : String) : ∀ l : List (String × String),
    (put k v l).lookup x = if x = k then some v else l.lookup x
  | [] => lookup_cons k v x []
  | (k', v') :: r => by
    unfold put
    split
    · exact lookup_cons k v x _
    · split
      · rename_i hk
        rw [lookup_cons, lookup_cons, ← hk]
        split <;> rfl
      · rename_i hk
        rw [lookup_cons, lookup_cons, lookup_put k v x r]
        by_cases hx : x = k
        · have hne : x ≠ k' := hx ▸ hk
          rw [if_pos hx, if_neg hne, if_pos hx]
        · rw [if_neg hx, if_neg hx]

/-- Every name stands before those that are greater, and once. -/
def InOrder (l : List (String × String)) : Prop := l.Pairwise fun a b => a.1 < b.1

theorem mem_put {k v : String} {e : String × String} : ∀ {l : List (String × String)},
    e ∈ put k v l → e = (k, v) ∨ e ∈ l
  | [], he => Or.inl (List.mem_singleton.mp he)
  | (k', v') :: r, he => by
    unfold put at he
    split at he
    · exact List.mem_cons.mp he
    · split at he
      · exact (List.mem_cons.mp he).imp_right (List.mem_cons_of_mem _)
      · rcases List.mem_cons.mp he with rfl | he
        · exact Or.inr List.mem_cons_self
        · exact (mem_put he).imp_right (List.mem_cons_of_mem _)

theorem InOrder.put {k v : String} : ∀ {l : List (String × String)}, InOrder l →
    InOrder (put k v l)
  | [], _ => List.pairwise_singleton _ _
  | (k', v') :: r, h => by
    obtain ⟨hlt, hr⟩ := List.pairwise_cons.mp h
    unfold HeaderFilter.put
    split
    · rename_i hk
      refine List.pairwise_cons.mpr ⟨fun e he => ?_, h⟩
      rcases List.mem_cons.mp he with rfl | he
      · exact hk
      · exact String.lt_trans hk (hlt e he)
    · split
      · rename_i hk
        exact List.pairwise_cons.mpr ⟨fun e he => hk ▸ hlt e he, hr⟩
      · rename_i hge hne
        have hk : k' < k := by
          by_contra hnot
          exact hne (String.le_antisymm (String.not_lt.mp hnot) (String.not_lt.mp hge))
        refine List.pairwise_cons.mpr ⟨fun e he => ?_, InOrder.put hr⟩
        rcases mem_put he with rfl | he
        · exact hk
        · exact hlt e he

theorem InOrder.lookup_eq_some {k v : String} : ∀ {l : List (String × String)}, InOrder l →
    (l.lookup k = some v ↔ (k, v) ∈ l)
  | [], _ => by simp
  | (k', v') :: r, h => by
    obtain ⟨hlt, hr⟩ := List.pairwise_cons.mp h
    rw [lookup_cons, List.mem_cons, Prod.mk.injEq]
    by_cases hk : k = k'
    · -- No other entry of the name stands further behind.
      have hgone : (k, v) ∉ r := fun hmem => String.lt_irrefl k' (hk ▸ hlt _ hmem)
      rw [if_pos hk, Option.some_inj, or_iff_left hgone]
      exact ⟨fun hv => ⟨hk, hv.symm⟩, fun hkv => hkv.2.symm⟩
    · rw [if_neg hk, InOrder.lookup_eq_some hr, or_iff_right fun hkv => hk hkv.1]

/-- **A list in order is determined by its look-ups.** -/
theorem eq_of_lookup {l l' : List (String × String)} (hl : InOrder l) (hl' : InOrder l')
    (h : ∀ k, l'.lookup k = l.lookup k) : l' = l := by
  have hnodup : ∀ {l : List (String × String)}, InOrder l → l.Nodup := fun hl =>
    List.Pairwise.imp (fun {a b} hab (heq : a = b) => String.lt_irrefl b.1 (heq ▸ hab)) hl
  have hperm : l'.Perm l := by
    refine (List.perm_ext_iff_of_nodup (hnodup hl') (hnodup hl)).mpr ?_
    rintro ⟨k, v⟩
    rw [← hl'.lookup_eq_some, ← hl.lookup_eq_some, h]
  exact hperm.eq_of_pairwise
    (fun a b _ _ hab hba => absurd (String.lt_trans hab hba) (String.lt_irrefl _)) hl' hl

/-! ## What is told -/

theorem visible_concat (f : HeaderFilter) (entries : List (HeaderName × HeaderValue))
    (e : HeaderName × HeaderValue) : f.visible ⟨entries ++ [e]⟩ =
      if f.isVisible e.1.text then put e.1.text e.2.lossyText (f.visible ⟨entries⟩)
      else f.visible ⟨entries⟩ := by
  unfold visible
  rw [List.filter_append, List.foldl_append]
  cases he : f.isVisible e.1.text with
  | true => simp [he]
  | false => simp [he]

theorem visible_inOrder (f : HeaderFilter) (h : Headers) : InOrder (f.visible h) := by
  obtain ⟨entries⟩ := h
  induction entries using List.reverseRecOn with
  | nil => exact .nil
  | append_singleton entries e ih =>
    rw [visible_concat]
    split
    · exact ih.put
    · exact ih

/-- **Of a name that may be told the last value is told**, and of any other nothing. -/
theorem lookup_visible (f : HeaderFilter) (h : Headers) (n : HeaderName) :
    (f.visible h).lookup n.text =
      if f.isVisible n.text then (h.values n).getLast?.map (·.lossyText) else none := by
  obtain ⟨entries⟩ := h
  induction entries using List.reverseRecOn with
  | nil => simp [visible, Headers.values]
  | append_singleton entries e ih =>
    rw [visible_concat, Headers.values_append]
    by_cases hn : e.1 = n
    · rw [hn, if_pos rfl, List.getLast?_concat]
      cases hv : f.isVisible n.text with
      | true => rw [if_pos rfl, lookup_put, if_pos rfl, if_pos rfl, Option.map_some]
      | false =>
        rw [hv] at ih
        rw [if_neg Bool.false_ne_true, ih, if_neg Bool.false_ne_true, if_neg Bool.false_ne_true]
    · have htext : n.text ≠ e.1.text := fun h => hn (congrArg HeaderName.mk h.symm)
      rw [if_neg hn, List.append_nil, ← ih]
      split
      · rw [lookup_put, if_neg htext]
      · rfl

/-- The names that may be told. -/
def tells (f : HeaderFilter) (n : HeaderName) : Bool := f.isVisible n.text

/-- **What is told depends on the names that may be told**, and on their values. -/
theorem visible_congr {f : HeaderFilter} {h h' : Headers} (hh : Headers.AgreeOn f.tells h h') :
    f.visible h' = f.visible h := by
  refine eq_of_lookup (f.visible_inOrder h) (f.visible_inOrder h') fun k => ?_
  have hboth := fun h => f.lookup_visible h ⟨k⟩
  rw [hboth, hboth]
  split
  · rename_i hk
    rw [hh ⟨k⟩ hk]
  · rfl

/-! ## Further patterns -/

theorem compile_of_withExtra {library : PatternLibrary} {extra : List String} {f : HeaderFilter}
    (h : withExtra library extra = .ok f) : library.compile (patterns extra) = some f.hides := by
  unfold withExtra at h
  split at h
  · rename_i found hfound
    cases h
    exact hfound
  · cases h

theorem isVisible_eq_false_iff (f : HeaderFilter) (name : String) :
    f.isVisible name = false ↔ f.hides name = true := by
  rw [isVisible, Bool.not_eq_false']

theorem patterns_subset {extra more : List String} (hsub : extra ⊆ more) :
    patterns extra ⊆ patterns more :=
  List.map_subset _ fun _ hs =>
    List.mem_append.mpr ((List.mem_append.mp hs).imp_right fun h => hsub h)

variable {library : PatternLibrary} (hl : library.Lawful)
include hl

/-- **Patterns that come on top of others leave hidden what these hide.** -/
theorem hides_more {extra more : List String} (hsub : extra ⊆ more) {f g : HeaderFilter}
    (hf : withExtra library extra = .ok f) (hg : withExtra library more = .ok g) {name : String}
    (hname : f.isVisible name = false) : g.isVisible name = false := by
  rw [isVisible_eq_false_iff] at hname ⊢
  obtain ⟨t, ht, halone⟩ := (hl.union (compile_of_withExtra hf) name).mp hname
  exact (hl.union (compile_of_withExtra hg) name).mpr ⟨t, patterns_subset hsub ht, halone⟩

/-- The name under which clients say what they are is among those that are always hidden. -/
theorem hides_userAgent {extra : List String} {f : HeaderFilter}
    (hf : withExtra library extra = .ok f) : f.isVisible HeaderName.userAgent.text = false := by
  have hcompile := compile_of_withExtra hf
  have husual : "(?i)^User-Agent$" ∈ patterns extra := by simp [patterns, hidden]
  obtain ⟨alone, halone⟩ := hl.members hcompile husual
  have hplain : ∀ c ∈ "User-Agent".toList, PatternLibrary.IsPlain c := by
    simp [PatternLibrary.IsPlain]
  have hfound : alone HeaderName.userAgent.text = true := hl.caseless hplain halone (by decide)
  exact (isVisible_eq_false_iff f _).mpr ((hl.union hcompile _).mpr ⟨_, husual, alone, halone, hfound⟩)

end HeaderFilter

end Failover
