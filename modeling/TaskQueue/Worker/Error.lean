import TaskQueue.Manager.Error

/-!
# Failures of a worker

A worker is not set up when a queue or a ticker cannot be registered, and its run ends early when
one of its loops cannot query the database.
-/

namespace TaskQueue

inductive WorkerError where
  | registration (cause : OperationError)
  | poll (cause : OperationError)
deriving Repr, DecidableEq

namespace WorkerError

def cause : WorkerError → OperationError
  | registration cause => cause
  | poll cause => cause

def message : WorkerError → String
  | registration cause =>
    s!"Error occurred while registering queues and tickers: {cause.message}"
  | poll cause => s!"Failed to poll for tasks or tickers: {cause.message}"

end WorkerError

end TaskQueue
