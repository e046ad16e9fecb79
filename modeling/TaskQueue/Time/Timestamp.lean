import TaskQueue.Time.Date
import TaskQueue.Time.Span

/-!
# Timestamps

A timestamp is a moment of universal time, to the nanosecond. A leap second is kept as a fraction
of more than a second after the last second of its minute.
-/

namespace TaskQueue

abbrev secondsPerDay : Nat := 86400

/-- A moment: a date, a second of that day, and the nanoseconds since that second began. -/
structure Timestamp where
  date : Date
  second : Nat
  nanos : Nat
  second_lt : second < secondsPerDay
  nanos_lt : nanos < nanosPerSecond ∨ second % 60 = 59 ∧ nanos < 2 * nanosPerSecond
deriving DecidableEq, Repr

namespace Timestamp

def epoch : Timestamp := ⟨.epoch, 0, 0, by decide, by decide⟩

instance : Inhabited Timestamp := ⟨epoch⟩

/-- The timestamp with the given parts, when there is one. -/
def ofParts? (date : Date) (second nanos : Nat) : Option Timestamp :=
  if h : second < secondsPerDay ∧
      (nanos < nanosPerSecond ∨ second % 60 = 59 ∧ nanos < 2 * nanosPerSecond) then
    some ⟨date, second, nanos, h.1, h.2⟩
  else none

/-- The moment lies before another one: by date, then by second, then by fraction. -/
def before (a b : Timestamp) : Bool :=
  if a.date = b.date then
    a.second < b.second || (a.second == b.second && a.nanos < b.nanos)
  else
    a.date.dayNumber < b.date.dayNumber

def inLeapSecond (t : Timestamp) : Bool :=
  nanosPerSecond ≤ t.nanos

/-- The nanoseconds from `b` to `a`. A leap second inside the stretch counts as a second when it
lies between two times of day. -/
def nanosSince (a b : Timestamp) : Int :=
  let leap : Int :=
    if b.second < a.second && b.inLeapSecond then 1
    else if a.second < b.second && a.inLeapSecond then -1
    else 0
  let seconds := (a.date.dayNumber - b.date.dayNumber) * secondsPerDay +
    ((a.second : Int) - b.second) + leap
  seconds * nanosPerSecond + ((a.nanos : Int) - b.nanos)

/-- The span from `b` to `a`, empty when `a` does not lie after `b`. -/
def spanSince (a b : Timestamp) : Span :=
  (Span.ofNanos? (a.nanosSince b).toNat).getD .zero

/-- The timestamp with what is finer than a microsecond dropped. -/
def truncateToMicros (t : Timestamp) : Timestamp :=
  { t with
    nanos := t.nanos / 1000 * 1000
    nanos_lt := by have := t.nanos_lt; simp only [nanosPerSecond] at *; omega }

end Timestamp

end TaskQueue
