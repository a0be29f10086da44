import Failover.Stats
/-!
# What the counters add up to

* `summed` : a number for each item of a list, added up;
* `Stats.Sums` : the counters are those of so many tallies, as far as 64 bits hold them.
  `Stats.sums_zero`, `Stats.Sums.record`: so they are from the beginning, and after each request;
* `Stats.Sums.total_histogram` : the classes of the histogram add up to the requests.
-/

set_option autoImplicit false

namespace Failover

/-- A number for each item of a list, added up. -/
def summed {α : Type} (f : α → Nat) : List α → Nat
  | [] => 0
  | a :: as => f a + summed f as

section Summed

variable {α : Type} (f : α → Nat)

theorem summed_append : ∀ as bs : List α, summed f (as ++ bs) = summed f as + summed f bs
  | [], bs => (Nat.zero_add _).symm
  | a :: as, bs => by
    show f a + summed f (as ++ bs) = f a + summed f as + summed f bs
    rw [summed_append as bs, Nat.add_assoc]

theorem summed_concat (as : List α) (a : α) : summed f (as ++ [a]) = summed f as + f a := by
  rw [summed_append]
  rfl

theorem summed_map {β : Type} (g : β → α) : ∀ bs : List β,
    summed f (bs.map g) = summed (fun b => f (g b)) bs
  | [] => rfl
  | b :: bs => congrArg (f (g b) + ·) (summed_map g bs)

theorem summed_congr {g : α → Nat} : ∀ {as : List α}, (∀ {a}, a ∈ as → f a = g a) →
    summed f as = summed g as
  | [], _ => rfl
  | a :: as, h => by
    show f a + summed f as = g a + summed g as
    rw [h List.mem_cons_self, summed_congr fun hb => h (List.mem_cons_of_mem a hb)]

end Summed

namespace Stats

/-- The largest number of microseconds that a counter holds. -/
def maxMicros : Nat := 18446744073709551615

/-- The counters are those of so many tallies, as far as 64 bits hold them. -/
structure Sums (s : Stats) (ts : List Tally) : Prop where
  requests : s.requests.toNat = ts.length % UInt64.size
  attempts : s.attempts.toNat = summed (·.attempts) ts % UInt64.size
  failed : s.failedAttempts.toNat = summed (·.failed) ts % UInt64.size
  micros : s.micros.toNat = summed (fun t => min t.elapsed.micros maxMicros) ts % UInt64.size
  classes : s.histogram.length = 5
  histogram : ∀ i < 5, (s.histogram[i]?).map (·.toNat) =
    some (ts.countP (fun t => t.bucket = i) % UInt64.size)
  total : s.histogram.foldr (· + ·) 0 = s.requests

theorem sums_zero : zero.Sums [] where
  requests := rfl
  attempts := rfl
  failed := rfl
  micros := rfl
  classes := rfl
  histogram := by
    intro i hi
    match i, hi with
    | 0, _ | 1, _ | 2, _ | 3, _ | 4, _ => rfl
  total := rfl

/-- A counter that was right is right after so many more. -/
theorem toNat_add_ofNat {x : UInt64} {n : Nat} (h : x.toNat = n % UInt64.size) (k : Nat) :
    (x + UInt64.ofNat k).toNat = (n + k) % UInt64.size := by
  rw [UInt64.toNat_add, UInt64.toNat_ofNat', h]
  exact (Nat.add_mod n k UInt64.size).symm

/-- One class of a histogram goes up by one, and so does their sum. -/
theorem foldr_modify : ∀ (l : List UInt64) (b : Nat), b < l.length →
    (l.modify b (· + 1)).foldr (· + ·) 0 = l.foldr (· + ·) 0 + 1
  | [], _, h => by cases h
  | x :: xs, 0, _ => by
    show x + 1 + xs.foldr (· + ·) 0 = x + xs.foldr (· + ·) 0 + 1
    ac_rfl
  | x :: xs, b + 1, h => by
    show x + (xs.modify b (· + 1)).foldr (· + ·) 0 = x + xs.foldr (· + ·) 0 + 1
    rw [foldr_modify xs b (Nat.lt_of_succ_lt_succ h), UInt64.add_assoc]

theorem bucket_lt (t : Tally) : t.bucket < 5 := by
  unfold Tally.bucket
  omega

/-- **One more request keeps the counters right.** -/
theorem Sums.record {s : Stats} {ts : List Tally} (h : s.Sums ts) (t : Tally) :
    (s.record t).Sums (ts ++ [t]) where
  requests := by
    rw [List.length_append]
    exact toNat_add_ofNat h.requests 1
  attempts := by
    rw [summed_concat]
    exact toNat_add_ofNat h.attempts t.attempts
  failed := by
    rw [summed_concat]
    exact toNat_add_ofNat h.failed t.failed
  micros := by
    rw [summed_concat]
    exact toNat_add_ofNat h.micros _
  classes := by
    rw [Stats.record, List.length_modify]
    exact h.classes
  histogram := by
    intro i hi
    have hold := h.histogram i hi
    show ((s.histogram.modify t.bucket (· + 1))[i]?).map (·.toNat) = _
    rw [List.getElem?_modify, List.countP_append, List.countP_singleton]
    cases hx : s.histogram[i]? with
    | none =>
      rw [hx] at hold
      cases hold
    | some x =>
      rw [hx] at hold
      have hx' : x.toNat = _ := Option.some.inj hold
      by_cases hb : t.bucket = i
      · simp only [hb, if_true, decide_true, Option.map_eq_map, Option.map_some]
        exact congrArg some (toNat_add_ofNat hx' 1)
      · simp only [hb, if_false, decide_false, Option.map_eq_map, Option.map_some]
        exact congrArg some hx'
  total := by
    have hlt : t.bucket < s.histogram.length := by
      rw [h.classes]
      exact bucket_lt t
    rw [Stats.record, foldr_modify _ _ hlt, h.total]

/-- The time of all requests, as it is told. -/
theorem Sums.requestTime {s : Stats} {ts : List Tally} (h : s.Sums ts) :
    s.requestTime.nanos =
      summed (fun t => min t.elapsed.micros maxMicros) ts % UInt64.size * 1000 := by
  have hlt : s.micros.toNat < 18446744073709551616 := s.micros.toNat_lt
  rw [← h.micros, Stats.requestTime, Duration.nanos_clamp]
  unfold Duration.largest
  omega

end Stats

end Failover
