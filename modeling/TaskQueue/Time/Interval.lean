import TaskQueue.Time.Span

/-!
# Database intervals

The database keeps a span as months, days and microseconds, each with a sign of its own. A month
counts as thirty days. Reading an interval saturates: a sum below zero reads as the empty span, a
sum beyond 63 bits of microseconds as the greatest of them. Writing a span fails when its
microseconds do not fit, and drops what is finer than a microsecond.
-/

namespace TaskQueue

structure Interval where
  months : Int32
  days : Int32
  microseconds : Int64
deriving DecidableEq, Repr, Inhabited

namespace Interval

def daysPerMonth : Int := 30

def microsPerDay : Int := 86400000000

/-- The greatest number of 64 bits with a sign. -/
def maxMicros : Int := 9223372036854775807

/-- A whole number brought into the range of 64 bits with a sign. -/
def saturate (n : Int) : Int :=
  max (-maxMicros - 1) (min n maxMicros)

/-- The microseconds of an interval, each operation saturating. -/
def totalMicros (i : Interval) : Int :=
  saturate (saturate ((i.months.toInt * daysPerMonth + i.days.toInt) * microsPerDay) +
    i.microseconds.toInt)

theorem saturate_le (n : Int) : saturate n ≤ maxMicros := by
  simp only [saturate, maxMicros]
  omega

/-- The span of an interval, empty when the interval is negative. -/
def toSpan (i : Interval) : Span :=
  ⟨i.totalMicros.toNat * 1000, by
    have : i.totalMicros ≤ maxMicros := saturate_le _
    simp only [maxMicros, nanosPerSecond, Nat.pow_eq] at *
    omega⟩

/-- The interval of a span, in microseconds only, when they fit. -/
def ofSpan? (d : Span) : Option Interval :=
  if d.micros < Nat.pow 2 63 then some ⟨0, 0, Int64.ofNat d.micros⟩ else none

def tooLongMessage (d : Span) : String :=
  s!"Duration of {d.render} does not fit in a postgres interval"

end Interval

end TaskQueue
