import Failover.Duration
/-!
# Counters

* `Tally` : the attempts of one request;
* `Stats` : what all requests of a client add up to, in 64-bit counters that wrap around;
* `Stats.record` : one more finished request.
-/

set_option autoImplicit false

namespace Failover

/-- The attempts of one request, those among them that failed, and the time for all of it. The program
counts both in 32 bits; `Job.run_counts` says how far they go. -/
structure Tally where
  attempts : Nat
  failed : Nat
  elapsed : Duration
deriving DecidableEq, Repr

namespace Tally

/-- Before the first attempt. -/
def zero : Tally := ⟨0, 0, .zero⟩

/-- One more attempt. -/
def begin (t : Tally) : Tally := { t with attempts := t.attempts + 1 }

/-- The last attempt failed. -/
def fail (t : Tally) : Tally := { t with failed := t.failed + 1 }

/-- The class of the histogram: 0, 1, 2, 3, or 4 and more attempts. -/
def bucket (t : Tally) : Nat := min t.attempts 4

end Tally

/-- What all requests of a client add up to. The histogram counts the requests that took 0, 1, 2, 3, or 4
and more attempts. -/
structure Stats where
  requests : UInt64
  attempts : UInt64
  failedAttempts : UInt64
  micros : UInt64
  histogram : List UInt64
deriving DecidableEq, Repr

namespace Stats

/-- Before the first request. -/
def zero : Stats := ⟨0, 0, 0, 0, [0, 0, 0, 0, 0]⟩

/-- Microseconds as far as 64 bits hold them. -/
def clampedMicros (d : Duration) : UInt64 := UInt64.ofNat (min d.micros 18446744073709551615)

/-- One more finished request. -/
def record (s : Stats) (t : Tally) : Stats :=
  { requests := s.requests + 1
    attempts := s.attempts + UInt64.ofNat t.attempts
    failedAttempts := s.failedAttempts + UInt64.ofNat t.failed
    micros := s.micros + clampedMicros t.elapsed
    histogram := s.histogram.modify t.bucket (· + 1) }

/-- Time of all requests. -/
def requestTime (s : Stats) : Duration := .clamp (s.micros.toNat * 1000)

end Stats

end Failover
