/-!
# Faults

A fault ends a program at once: it was given a value that its timers, its channels or its pool can
do nothing with. Faults are no failures of an operation, and nothing recovers from them.
-/

namespace TaskQueue

inductive Fault where
  /-- An instant lies beyond the clock. -/
  | beyondClock
  /-- A timer would tick without end. -/
  | noPeriod
  | noCapacity
  | noConcurrency
deriving Repr, DecidableEq

def Fault.message : Fault → String
  | beyondClock => "overflow when adding duration to instant"
  | noPeriod => "`period` must be non-zero."
  | noCapacity => "mpsc bounded channel requires buffer > 0"
  | noConcurrency => "Concurrency must be greater than 0"

end TaskQueue
