import Lookout.Time.Calendar

/-! Instants, with a precision of nanoseconds, and their coarser form in whole microseconds. -/

namespace Lookout.Time

/-- The nanoseconds since 1970-01-01T00:00:00Z. -/
structure Instant where
  nanos : Int
  deriving Repr, DecidableEq

namespace Instant

/-- The number of the day 1970-01-01. -/
def epochDay : Int := 719528

def nanosPerSecond : Int := 1000000000

def secondsPerDay : Int := 86400

/-- The instant of a number of seconds since 1970-01-01T00:00:00Z and of nanoseconds behind it. -/
def ofSeconds (seconds : Int) (nanos : Int) : Instant := ⟨seconds * nanosPerSecond + nanos⟩

/-- The whole seconds, rounded down. -/
def seconds (t : Instant) : Int := t.nanos / nanosPerSecond

/-- The nanoseconds within the second. -/
def subsecond (t : Instant) : Nat := (t.nanos % nanosPerSecond).toNat

/-- The date in UTC. -/
def date (t : Instant) : Date := .ofDay (t.seconds / secondsPerDay + epochDay)

/-- The seconds since midnight in UTC. -/
def secondOfDay (t : Instant) : Nat := (t.seconds % secondsPerDay).toNat

/-- The seconds from 1970-01-01 to 2000-01-01, the point that microseconds are cut toward. -/
def millennium : Int := 946684800

/-- The microseconds since 1970-01-01T00:00:00Z. What is finer is cut off, toward the year 2000. -/
def toMicros (t : Instant) : Int :=
  (t.nanos - millennium * nanosPerSecond).tdiv 1000 + millennium * 1000000

/-- The instant of a number of microseconds since 1970-01-01T00:00:00Z. -/
def ofMicros (n : Int) : Instant := ⟨n * 1000⟩

/-- Microseconds are kept exactly. -/
theorem toMicros_ofMicros (n : Int) : (ofMicros n).toMicros = n := by
  have h : n * 1000 - millennium * nanosPerSecond = (n - millennium * 1000000) * 1000 := by
    simp only [millennium, nanosPerSecond]; omega
  simp only [toMicros, ofMicros, h, Int.mul_tdiv_cancel _ (by decide : (1000 : Int) ≠ 0)]
  omega

end Instant
end Lookout.Time
