import TaskQueue.Fault
import TaskQueue.Manager.Queues
import TaskQueue.Pool.Submission
import TaskQueue.Worker.Error

/-!
# Workers

A worker runs callbacks for the tasks and the tickers of a namespace. It is set up from options, by
registering its queues and tickers; a name that is defined twice keeps its last callback.
-/

namespace TaskQueue

abbrev Handlers (α : Type) := List (String × (α → Work))

namespace Handlers

variable {α : Type}

/-- The callbacks with one more. A name that had one gets the new one. -/
def define (handlers : Handlers α) (name : String) (handler : α → Work) : Handlers α :=
  handlers.filter (·.1 ≠ name) ++ [(name, handler)]

def find? (handlers : Handlers α) (name : String) : Option (α → Work) :=
  handlers.lookup name

/-- The names that have callbacks, in alphabetical order. -/
def names (handlers : Handlers α) : List String :=
  (handlers.map Prod.fst).mergeSort (· ≤ ·)

end Handlers

structure Worker where
  manager : Manager
  concurrency : Nat
  pollInterval : Span
  tickerPeriod : Span
  queues : Handlers Task
  tickers : Handlers Ticker

structure WorkerOptions where
  concurrency : Option Nat := none
  pollInterval : Option Span := none
  tickerPeriod : Option Span := none
  queues : List (QueuePatch × (Task → Work)) := []
  tickers : List (TickerPatch × (Ticker → Work)) := []

namespace WorkerOptions

def withConcurrency (o : WorkerOptions) (concurrency : Nat) : Except Fault WorkerOptions :=
  if concurrency = 0 then .error .noConcurrency else .ok { o with concurrency := some concurrency }

/-- How often a worker looks for tasks that is not told. -/
def defaultPollInterval : Span := .ofSecs 1

/-- Registers what callbacks are defined for, one after the other. -/
def register {Patch α : Type} (registered : Patch → Action String) :
    List (Patch × (α → Work)) → Handlers α → Action (Handlers α)
  | [], handlers => pure handlers
  | (patch, handler) :: rest, handlers => do
    let name ← registered patch
    register registered rest (handlers.define name handler)

/-- Sets up a worker. It runs as many callbacks at a time as there are processors if the options do
not say how many. -/
def init (o : WorkerOptions) (manager : Manager) (processors : Nat) :
    Operation WorkerError Worker :=
  Operation.mapError WorkerError.registration do
    let queues ← register (fun patch => Queue.queue <$> manager.registerQueue patch) o.queues []
    let tickers ←
      register (fun patch => Ticker.ticker <$> manager.registerTicker patch) o.tickers []
    return { manager, queues, tickers
             concurrency := o.concurrency.getD processors
             pollInterval := o.pollInterval.getD defaultPollInterval
             tickerPeriod := o.tickerPeriod.getD defaultTickerPeriod }

end WorkerOptions

end TaskQueue
