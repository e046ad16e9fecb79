import TaskQueue.Proofs.Worker.Settled

/-!
# Stranded tasks

When a loop fails, the task loop is dropped where it is. A task that it has at that moment, held for
want of room in the channel or about to be given back, is stranded: it stays claimed, and nothing is
attempted about it. Every other task is settled as in a run that was stopped.
-/

namespace TaskQueue.WorkerHistory

variable {w : Worker} {h h₀ : WorkerHistory}

end TaskQueue.WorkerHistory
