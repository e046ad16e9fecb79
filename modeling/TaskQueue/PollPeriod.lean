import TaskQueue.Time.Span

/-!
# The period between polls

Tickers are polled at a period that adapts to the tickers that fire. A ticker with a shorter
interval brings the period down to that interval, unless the interval is less than a second. The
period then moves half of the way towards the time since the ticker before fired. It does not get
shorter than a tenth of a second.
-/

namespace TaskQueue.PollPeriod

/-- Tickers with a shorter interval do not shrink the period. -/
def minInterval : Span := .ofSecs 1

def shortest : Span := .ofMillis 100

/-- The period brought down to the interval of the ticker that fired. -/
def shrink (period : Span) : Option Span → Span
  | some interval => if minInterval ≤ interval ∧ interval < period then interval else period
  | none => period

/-- A span moved half of the way towards another one. The distance moved is rounded down. -/
def halfwayTo (a b : Span) : Span :=
  if a ≤ b then
    ⟨a.nanos + (b.nanos - a.nanos) / 2, by have := b.lt_limit; have := a.lt_limit; omega⟩
  else
    ⟨a.nanos - (a.nanos - b.nanos) / 2, by have := a.lt_limit; omega⟩

/-- The period after a ticker fired, with the time since the one before. -/
def adjust (period : Span) (interval : Option Span) (since : Span) : Span :=
  (halfwayTo (shrink period interval) since).max shortest

theorem shortest_le_adjust (period : Span) (interval : Option Span) (since : Span) :
    shortest ≤ adjust period interval since :=
  Span.le_max_right _ _

/-- The periods after each of a list of fires, each an interval and the time since the fire
before. -/
def adjustAll (period : Span) : List (Option Span × Span) → List Span
  | [] => []
  | (interval, since) :: fires =>
    let period := adjust period interval since
    period :: adjustAll period fires

end TaskQueue.PollPeriod
