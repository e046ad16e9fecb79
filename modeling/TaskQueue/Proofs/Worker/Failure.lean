import TaskQueue.Proofs.Database.Conversation
import TaskQueue.Proofs.Worker.Drain
import TaskQueue.Proofs.Worker.Stop
import TaskQueue.Proofs.Worker.Stranded
import TaskQueue.Worker.Sweep
import TaskQueue.Worker.Turn

/-!
# Loops that fail

The first loop that fails is the only one, and its failure is the result of the run. Nothing is
claimed from then on. What was delivered to the dispatchers by then is still dispatched and settled
before the run returns.
-/

namespace TaskQueue

/-! ## Claims -/

namespace WorkerRun

variable {w : Worker} {now : Instant} {r r' : WorkerRun} {m : Move} {line : Line}
  {e : OperationError}

end WorkerRun

namespace WorkerHistory

variable {w : Worker} {h h' h₀ mid : WorkerHistory} {e : Event} {es before after : List Event}

namespace Event

/-- Whether an event brings a run nearer to its end. -/
def drains : Event → Bool
  | .settle .. => true
  | .move m => m.drains
  | .turn .. | .pass _ | .disconnect => false

end Event

end WorkerHistory

end TaskQueue
