/-!
# Durations and instants

Spans of time in whole nanoseconds, up to a largest one that additions and products stop at. An
instant is the number of nanoseconds since the clock started.

* `Duration.clamp` : the duration of so many nanoseconds, or the largest one;
* `Duration.scale` : a whole multiple, stopping at the largest;
* `Duration.between` : the time from one instant to another.
-/

set_option autoImplicit false

namespace Failover

/-- A span of time of at most 2^64 seconds less one nanosecond. -/
structure Duration where
  nanos : Nat
  le_largest : nanos ≤ 18446744073709551615999999999
deriving DecidableEq, Repr

namespace Duration

/-- Nanoseconds in one second. -/
def perSecond : Nat := 1000000000

/-- Length of the largest duration in nanoseconds. -/
def largest : Nat := 18446744073709551615999999999

/-- The duration of `n` nanoseconds, or the largest if that is shorter. -/
def clamp (n : Nat) : Duration := ⟨min n largest, Nat.min_le_right _ _⟩

/-- The empty span. -/
def zero : Duration := ⟨0, Nat.zero_le _⟩

instance : Inhabited Duration := ⟨zero⟩

/-- `n` whole milliseconds. -/
def ofMillis (n : Nat) : Duration := clamp (n * 1000000)

/-- Seconds and further nanoseconds. -/
def ofParts (secs nanos : Nat) : Duration := clamp (secs * perSecond + nanos)

/-- Whole seconds. -/
def secs (d : Duration) : Nat := d.nanos / perSecond

/-- Nanoseconds beyond the whole seconds. -/
def subsecNanos (d : Duration) : Nat := d.nanos % perSecond

/-- Whole milliseconds. -/
def millis (d : Duration) : Nat := d.nanos / 1000000

/-- Whole microseconds. -/
def micros (d : Duration) : Nat := d.nanos / 1000

/-- The low 64 bits of the whole milliseconds, as reports show them. -/
def reportedMillis (d : Duration) : Nat := d.millis % 18446744073709551616

/-- The time between two instants. -/
def between (start now : Nat) : Duration := clamp (now - start)

/-- `k` times `d`, or the largest duration. -/
def scale (d : Duration) (k : Nat) : Duration := clamp (d.nanos * k)

@[simp] theorem nanos_clamp (n : Nat) : (clamp n).nanos = min n largest := rfl

@[simp] theorem nanos_zero : zero.nanos = 0 := rfl

@[simp] theorem nanos_scale (d : Duration) (k : Nat) :
    (d.scale k).nanos = min (d.nanos * k) largest := rfl

/-- Durations of equal length are equal. -/
theorem ext {d e : Duration} (h : d.nanos = e.nanos) : d = e := by
  cases d; cases e; simp_all

end Duration

end Failover
