/-!
# Durations

A duration is a number of nanoseconds whose whole seconds fit a word of 64 bits.
-/

namespace ClusterPlan

/-- A length of time. -/
structure Duration where
  nanoseconds : Nat
  lt_limit : nanoseconds < UInt64.size * 1_000_000_000
deriving Repr, DecidableEq

namespace Duration

/-- The number of nanoseconds in a second. -/
def perSecond : Nat := 1_000_000_000

/-- The duration of a number of nanoseconds, if it is not too long. -/
def ofNanoseconds? (n : Nat) : Option Duration :=
  if h : n < UInt64.size * 1_000_000_000 then some ⟨n, h⟩ else none

/-- The sum of two durations, if it is not too long. -/
def add? (a b : Duration) : Option Duration :=
  ofNanoseconds? (a.nanoseconds + b.nanoseconds)

/-- No time at all. -/
def zero : Duration := ⟨0, by decide⟩

/-- The whole seconds of a duration. -/
def seconds (d : Duration) : Nat :=
  d.nanoseconds / perSecond

/-- What a duration has beyond its whole seconds. -/
def subsecond (d : Duration) : Nat :=
  d.nanoseconds % perSecond

/-- The whole milliseconds of a duration. -/
def milliseconds (d : Duration) : Nat :=
  d.nanoseconds / 1_000_000

end Duration
end ClusterPlan
