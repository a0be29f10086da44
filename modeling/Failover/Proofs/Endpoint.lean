import Mathlib.Data.List.Induction
import Failover.Endpoint
/-!
# Lists without repetitions

Of the endpoints of a list that name the same place, the first one counts.

* `Endpoint.Firsts` : those that do, in the order in which they do;
* `Endpoint.firsts_distinct` : a list without its repetitions consists of them;
* `Endpoint.distinct_eq_self` : a list without repetitions is left as it is;
* `Endpoint.unrepeated` : the list without every endpoint that has an equal one before it.
  `Endpoint.distinct_eq_unrepeated`: this is what is left.
-/

set_option autoImplicit false

namespace Failover.Endpoint

/-- The endpoints `out` are those of `es` that are the first to name their place, in the order in which
    they come there. -/
structure Firsts (es out : List Endpoint) : Prop where
  mem_iff : ∀ e, e ∈ out ↔ es.find? (·.same e) = some e
  inOrder : out.Pairwise fun a b => es.findIdx (·.same a) < es.findIdx (·.same b)

theorem same_self (e : Endpoint) : e.same e = true := by simp

/-- Endpoints that name one place name the same places as each other. -/
theorem same_right_congr {a b : Endpoint} (h : a.same b = true) :
    (fun c : Endpoint => c.same a) = fun c => c.same b := by
  have hkey : a.key = b.key := by simpa [same] using h
  funext c
  rw [same, same, hkey]

namespace Firsts

variable {es out : List Endpoint} (h : Firsts es out)
include h

theorem mem {e : Endpoint} (he : e ∈ out) : e ∈ es :=
  List.mem_of_find?_eq_some ((h.mem_iff e).mp he)

/-- No two of them name the same place. -/
theorem apart : out.Pairwise fun a b => a.same b = false := by
  refine h.inOrder.imp ?_
  intro a b hlt
  rw [Bool.eq_false_iff]
  intro hsame
  rw [same_right_congr hsame] at hlt
  exact absurd hlt (Nat.lt_irrefl _)

/-- Whatever is named in the list is named by one of them. -/
theorem any_iff (e : Endpoint) : out.any (·.same e) = true ↔ es.any (·.same e) = true := by
  rw [List.any_eq_true, List.any_eq_true]
  constructor
  · rintro ⟨a, ha, hsame⟩
    exact ⟨a, h.mem ha, hsame⟩
  · rintro ⟨a, ha, hsame⟩
    have hsome : (es.find? (·.same e)).isSome = true := List.find?_isSome.mpr ⟨a, ha, hsame⟩
    obtain ⟨b, hb⟩ := Option.isSome_iff_exists.mp hsome
    have hbe : b.same e = true := List.find?_some (p := fun c : Endpoint => c.same e) hb
    refine ⟨b, (h.mem_iff b).mpr ?_, hbe⟩
    rw [same_right_congr hbe]
    exact hb

theorem eq_nil (hout : out = []) : es = [] := by
  rw [List.eq_nil_iff_forall_not_mem]
  intro e he
  have hany := (h.any_iff e).mpr (List.any_eq_true.mpr ⟨e, he, same_self e⟩)
  rw [hout] at hany
  cases hany

/-- What stands behind the list does not move its first endpoints. -/
theorem findIdx_append {a : Endpoint} (ha : a ∈ out) (more : List Endpoint) :
    (es ++ more).findIdx (·.same a) = es.findIdx (·.same a) ∧
      es.findIdx (·.same a) < es.length := by
  have hlt : es.findIdx (·.same a) < es.length :=
    List.findIdx_lt_length_of_exists ⟨a, h.mem ha, same_self a⟩
  exact ⟨by rw [List.findIdx_append, if_pos hlt], hlt⟩

theorem inOrder_append (more : List Endpoint) :
    out.Pairwise fun a b => (es ++ more).findIdx (·.same a) < (es ++ more).findIdx (·.same b) :=
  h.inOrder.imp_of_mem fun {a b} ha hb hlt => by
    rwa [(h.findIdx_append ha more).1, (h.findIdx_append hb more).1]

/-- An endpoint whose place has been named is not among the first. -/
theorem append_named {e : Endpoint} (hnamed : es.any (·.same e) = true) : Firsts (es ++ [e]) out := by
  refine ⟨fun a => ?_, h.inOrder_append [e]⟩
  rw [h.mem_iff, List.find?_append]
  cases hfound : es.find? (·.same a) with
  | some b => rfl
  | none =>
    simp only [reduceCtorEq, Option.none_or, false_iff]
    intro hlast
    obtain rfl : a = e := List.mem_singleton.mp (List.mem_of_find?_eq_some hlast)
    obtain ⟨b, hb, hsame⟩ := List.any_eq_true.mp hnamed
    exact absurd hsame (List.find?_eq_none.mp hfound b hb)

/-- An endpoint whose place has not been named is the last of the first. -/
theorem append_new {e : Endpoint} (hnew : es.any (·.same e) = false) :
    Firsts (es ++ [e]) (out ++ [e]) := by
  have hunnamed : ∀ a ∈ es, ¬ a.same e = true := List.any_eq_false.mp hnew
  refine ⟨fun a => ?_, ?_⟩
  · rw [List.mem_append, List.mem_singleton, h.mem_iff, List.find?_append]
    cases hfound : es.find? (·.same a) with
    | some b =>
      have hsame : b.same a = true := List.find?_some (p := fun c : Endpoint => c.same a) hfound
      have hne : a ≠ e := fun hae => hunnamed b (List.mem_of_find?_eq_some hfound) (hae ▸ hsame)
      rw [Option.some_or, or_iff_left hne]
    | none =>
      rw [Option.none_or, List.find?_singleton, or_iff_right (fun hno => by cases hno)]
      constructor
      · rintro rfl
        rw [if_pos (same_self a)]
      · intro hlast
        split at hlast
        · exact (Option.some.inj hlast).symm
        · cases hlast
  · refine List.pairwise_append.mpr ⟨h.inOrder_append [e], List.pairwise_singleton _ _, ?_⟩
    intro a ha b hb
    obtain rfl : b = e := List.mem_singleton.mp hb
    have hpast : es.findIdx (·.same b) = es.length :=
      List.findIdx_eq_length.mpr fun c hc => Bool.eq_false_iff.mpr (hunnamed c hc)
    obtain ⟨hplace, hlt⟩ := h.findIdx_append ha [b]
    rw [hplace, List.findIdx_append, hpast, if_neg (Nat.lt_irrefl _)]
    omega

/-- One more endpoint is kept unless its place has been named. -/
theorem insertNew (e : Endpoint) : Firsts (es ++ [e]) (insertNew out e) := by
  unfold Endpoint.insertNew
  split
  · rename_i hnamed
    exact h.append_named ((h.any_iff e).mp hnamed)
  · rename_i hnew
    exact h.append_new (Bool.eq_false_iff.mpr fun hnamed => hnew ((h.any_iff e).mpr hnamed))

end Firsts

/-- **A list without its repetitions consists of the endpoints that name their place first.** -/
theorem firsts_distinct (es : List Endpoint) : Firsts es (distinct es) := by
  induction es using List.reverseRecOn with
  | nil => exact ⟨fun e => by simp [distinct], List.Pairwise.nil⟩
  | append_singleton es e ih =>
    rw [distinct, List.foldl_append]
    exact ih.insertNew e

/-- Endpoints that all name different places stay. -/
theorem distinct_eq_self {es : List Endpoint} (h : es.Pairwise fun a b => a.same b = false) :
    distinct es = es := by
  induction es using List.reverseRecOn with
  | nil => rfl
  | append_singleton es e ih =>
    obtain ⟨hes, -, hlast⟩ := List.pairwise_append.mp h
    have hnew : es.any (·.same e) = false := by
      rw [List.any_eq_false]
      exact fun a ha => by simp [hlast a ha e (List.mem_singleton.mpr rfl)]
    rw [distinct, List.foldl_append]
    change Endpoint.insertNew (distinct es) e = _
    rw [ih hes, Endpoint.insertNew, hnew]
    rfl

/-- Those with no endpoint before them that names the same place. -/
def unrepeated (es : List Endpoint) : List Endpoint :=
  (es.zipIdx.filter fun x => !(es.take x.2).any (·.same x.1)).map (·.1)

theorem unrepeated_append (es : List Endpoint) (e : Endpoint) :
    unrepeated (es ++ [e]) = if es.any (·.same e) then unrepeated es else unrepeated es ++ [e] := by
  have hbefore : ∀ x ∈ es.zipIdx, (es ++ [e]).take x.2 = es.take x.2 := by
    intro x hx
    have hlt : x.2 < 0 + es.length := List.snd_lt_add_of_mem_zipIdx hx
    exact List.take_append_of_le_length (by omega)
  have hfront : es.zipIdx.filter (fun x => !((es ++ [e]).take x.2).any (·.same x.1)) =
      es.zipIdx.filter fun x => !(es.take x.2).any (·.same x.1) :=
    List.filter_congr fun x hx => by rw [hbefore x hx]
  unfold unrepeated
  rw [List.zipIdx_append, List.filter_append, hfront]
  cases hany : es.any (·.same e) <;> simp [hany]

/-- **A list without its repetitions is left with the endpoints that have no equal one before them.** -/
theorem distinct_eq_unrepeated (es : List Endpoint) : distinct es = unrepeated es := by
  induction es using List.reverseRecOn with
  | nil => rfl
  | append_singleton es e ih =>
    have hany : (distinct es).any (·.same e) = es.any (·.same e) :=
      Bool.eq_iff_iff.mpr ((firsts_distinct es).any_iff e)
    rw [distinct, List.foldl_append]
    change Endpoint.insertNew (distinct es) e = _
    rw [unrepeated_append, ← ih, Endpoint.insertNew, hany]

end Failover.Endpoint
