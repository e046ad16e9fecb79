import TaskQueue.Time.Span

/-!
# Instants

An instant is a point on the clock that timers go by: the nanoseconds since the clock was started.
Timers look at the clock once a millisecond, so an event set for an instant happens at the first
whole millisecond that is not before it. The clock ends after `2 ^ 63` seconds.
-/

namespace TaskQueue

abbrev Instant := Nat

namespace Instant

abbrev nanosPerMilli : Nat := 1000000

def limit : Instant := (Nat.pow 2 63 - 1) * nanosPerSecond

/-- The instant a number of milliseconds after the start. -/
def ofMillis (millis : Nat) : Instant := millis * nanosPerMilli

def millis (i : Instant) : Nat := i / nanosPerMilli

/-- The instant a span later, unless it is beyond the clock. -/
def after? (i : Instant) (d : Span) : Option Instant :=
  if i + d.nanos < limit then some (i + d.nanos) else none

/-- The first whole millisecond that is not before an instant. -/
def tick (i : Instant) : Instant :=
  (i + (nanosPerMilli - 1)) / nanosPerMilli * nanosPerMilli

/-- The span from one instant to a later one, empty when it is not later. -/
def spanTo (i later : Instant) : Span :=
  (Span.ofNanos? (later - i)).getD .zero

end Instant

end TaskQueue
