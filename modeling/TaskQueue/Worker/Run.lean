import TaskQueue.Pool.Basic
import TaskQueue.TaskLoop.Basic
import TaskQueue.TickerLoop.Basic
import TaskQueue.Worker.Basic
import TaskQueue.Worker.Settlement

/-!
# Runs of a worker

A run has three lines: tasks, tickers, and cleanup tickers. On each of them a loop claims what is to
be run and puts it in a channel, and a dispatcher takes it from there and submits it to the pool
that all lines share. What comes of a task is kept as a settlement until it is carried out.

The loops belong together: when one fails, the others are dropped where they are. The dispatchers go
on until their channels are empty; then the pool is closed. A run returns when the loops are over,
the pool is drained and nothing is left to settle.
-/

namespace TaskQueue

inductive Line where
  | tasks
  | tickers
  | cleanup
deriving Repr, DecidableEq

def Line.all : List Line := [tasks, tickers, cleanup]

structure Lines (α : Type) where
  tasks : α
  tickers : α
  cleanup : α
deriving Repr

namespace Lines

variable {α : Type}

def replicate (a : α) : Lines α := ⟨a, a, a⟩

def get (ls : Lines α) : Line → α
  | .tasks => ls.tasks
  | .tickers => ls.tickers
  | .cleanup => ls.cleanup

def set (ls : Lines α) (line : Line) (a : α) : Lines α :=
  match line with
  | .tasks => { ls with tasks := a }
  | .tickers => { ls with tickers := a }
  | .cleanup => { ls with cleanup := a }

end Lines

inductive Dispatcher where
  | idle
  /-- It waits for the answer to its call for a job. -/
  | submitting (job : Nat)
  | ended
deriving Repr, DecidableEq

/-- A run of a worker. The pool's cancellation is the worker's. -/
structure WorkerRun where
  tasks : TaskLoop
  tickers : TickerLoop
  cleanup : TickerLoop
  dispatchers : Lines Dispatcher := .replicate .idle
  pool : Pool Work
  /-- What is to be settled, in order. -/
  settlements : List Settlement := []

namespace WorkerRun

inductive Move where
  | taskLoop (m : TaskLoop.Move)
  | tickerLoop (m : TickerLoop.Move)
  | cleanupLoop (m : TickerLoop.Move)
  /-- A dispatcher takes the next thing from its channel, at a moment. -/
  | dispatch (line : Line) (moment : Timestamp)
  /-- A dispatcher learns the answer to its call. -/
  | answered (line : Line)
  /-- A dispatcher ends: nothing more will come. -/
  | leave (line : Line)
  | pool (m : Pool.Move Work)
  | close
  /-- The first settlement was attempted. -/
  | settled (result : Except OperationError Task)
  | notify (queue : String)
  | cancel

def noTickers (w : Worker) (now : Instant) : TickerLoop :=
  (TickerLoop.start w.tickerPeriod .single now .zero).finish (.ok ())

/-- A run that begins at an instant; the loops of tickers get random parts of their start delay. A
worker without queues does not look for tasks, nor one without tickers for tickers. -/
def start (w : Worker) (now : Instant) (jitter cleanupJitter : Span) : Except Fault WorkerRun := do
  let tasks ←
    if w.queues.isEmpty then .ok (.idle w.pollInterval .single now)
    else TaskLoop.start w.pollInterval .single now
  return {
    tasks
    tickers :=
      if w.tickers.isEmpty then noTickers w now else .start w.tickerPeriod .single now jitter
    cleanup := .start w.tickerPeriod .single now cleanupJitter
    pool := .ofSize w.concurrency }

def cancelled (r : WorkerRun) : Bool := r.pool.cancelled

def loopResult? (r : WorkerRun) : Line → Option (Except OperationError Unit)
  | .tasks => r.tasks.result?
  | .tickers => r.tickers.result?
  | .cleanup => r.cleanup.result?

/-- The failure of a loop, if one failed. The others make no more moves then, so there are not
two. -/
def failure? (r : WorkerRun) : Option OperationError :=
  Line.all.findSome? fun line =>
    match r.loopResult? line with
    | some (.error e) => some e
    | _ => none

/-- What came of the loops: the failure of one, or nothing once all of them ended well. -/
def result? (r : WorkerRun) : Option (Except OperationError Unit) :=
  match r.failure? with
  | some e => some (.error e)
  | none =>
    if Line.all.all fun line => (r.loopResult? line).isSome then
      some (.ok ())
    else none

def isFed (r : WorkerRun) (line : Line) : Bool :=
  r.result?.isNone && (r.loopResult? line).isNone

def isEmptied (r : WorkerRun) : Line → Bool
  | .tasks => r.tasks.channel.items.isEmpty
  | .tickers => r.tickers.channel.items.isEmpty
  | .cleanup => r.cleanup.channel.items.isEmpty

def isDispatched (r : WorkerRun) : Bool :=
  Line.all.all fun line => r.dispatchers.get line = .ended

def isOver (r : WorkerRun) : Bool :=
  r.result?.isSome && r.pool.closed && r.pool.isDrained && r.settlements.isEmpty

def setDispatcher (r : WorkerRun) (line : Line) (d : Dispatcher) : WorkerRun :=
  { r with dispatchers := r.dispatchers.set line d }

def settle (r : WorkerRun) (s : Settlement) : WorkerRun :=
  { r with settlements := r.settlements ++ [s] }

/-- What is settled of a job: nothing unless it was for a task. -/
def settleJob (r : WorkerRun) (j : Job Work) (settlement : Int64 → Settlement) : WorkerRun :=
  match j.context.subject with
  | .task t => r.settle (settlement t.id)
  | .ticker _ => r

def noHandlerMessage (queue : String) : String := s!"No handler defined for queue {queue}"

/-! ## Dispatching -/

def submit (r : WorkerRun) (now : Instant) (line : Line) (s : Submission) : Option WorkerRun := do
  let pool ← r.pool.step? now (.call s.worker s.subject s.limit s.work)
  return { r with pool }.setDispatcher line (.submitting r.pool.jobs.length)

/-- A task is dispatched: it is skipped if it expired, failed if its queue has no callback, and
submitted otherwise. -/
def dispatchTask (w : Worker) (now : Instant) (moment : Timestamp) (r : WorkerRun) :
    Option WorkerRun := do
  let (task, tasks) ← r.tasks.receive?
  let r := { r with tasks }
  if task.statusAt moment = .expired then return r
  match w.queues.find? task.queue with
  | none => return r.settle (.fail task.id (noHandlerMessage task.queue))
  | some handler =>
    r.submit now .tasks (.ofTask w.manager.worker task moment (handler task))

/-- A ticker is dispatched: it is skipped if it has no callback. -/
def dispatchTicker (w : Worker) (now : Instant) (r : WorkerRun) : Option WorkerRun := do
  let (ticker, tickers) ← r.tickers.receive?
  let r := { r with tickers }
  match w.tickers.find? ticker.ticker with
  | none => return r
  | some handler => r.submit now .tickers (.ofTicker w.manager.worker ticker (handler ticker))

/-- A cleanup ticker is dispatched: its queue is swept. -/
def dispatchCleanup (w : Worker) (now : Instant) (r : WorkerRun) : Option WorkerRun := do
  let (ticker, cleanup) ← r.cleanup.receive?
  { r with cleanup }.submit now .cleanup (.ofTicker w.manager.worker ticker .external)

/-- A dispatcher that is idle takes the next thing from its channel. -/
def dispatch (w : Worker) (now : Instant) (moment : Timestamp) (r : WorkerRun) (line : Line) :
    Option WorkerRun :=
  if r.dispatchers.get line = .idle then
    match line with
    | .tasks => r.dispatchTask w now moment
    | .tickers => r.dispatchTicker w now
    | .cleanup => r.dispatchCleanup w now
  else none

/-- A dispatcher goes on once its call was answered. A task that the pool refused is given back. -/
def hearAnswer (r : WorkerRun) (line : Line) : Option WorkerRun :=
  match r.dispatchers.get line with
  | .submitting i =>
    match r.pool.jobs[i]? with
    | some j =>
      match j.stage with
      | .waiting => none
      | .refused _ => some ((r.settleJob j .giveBack).setDispatcher line .idle)
      | _ => some (r.setDispatcher line .idle)
    | none => none
  | _ => none

/-! ## Moves -/

/-- The run after a move of the pool. A task whose callback ended is to be settled. -/
def movePool (r : WorkerRun) (now : Instant) (m : Pool.Move Work) : Option WorkerRun :=
  match m with
  | .call .. | .cancel | .close => none
  | .finish i _ => do
    let pool ← r.pool.step? now m
    let r := { r with pool }
    match pool.jobs[i]? with
    | some j =>
      match j.stage with
      | .ended result => return r.settleJob j (.ofResult · result)
      | _ => return r
    | none => return r
  | m => (r.pool.step? now m).map fun pool => { r with pool }

def whileFed (r : WorkerRun) (next : Option WorkerRun) : Option WorkerRun :=
  if r.result?.isNone then next else none

/-- The state after a move at an instant, if the move can be made. -/
def step? (w : Worker) (now : Instant) (m : Move) (r : WorkerRun) : Option WorkerRun :=
  match m with
  | .taskLoop m =>
    r.whileFed <| (r.tasks.step? now r.cancelled m).map fun tasks => { r with tasks }
  | .tickerLoop m =>
    r.whileFed <| (r.tickers.step? now r.cancelled m).map fun tickers => { r with tickers }
  | .cleanupLoop m =>
    r.whileFed <| (r.cleanup.step? now r.cancelled m).map fun cleanup => { r with cleanup }
  | .dispatch line moment => r.dispatch w now moment line
  | .answered line => r.hearAnswer line
  | .leave line =>
    if r.dispatchers.get line = .idle && r.isEmptied line && !r.isFed line then
      some (r.setDispatcher line .ended)
    else none
  | .pool m => r.movePool now m
  | .close =>
    if r.isDispatched && !r.pool.closed then some { r with pool := { r.pool with closed := true } }
    else none
  | .settled _ =>
    match r.settlements with
    | [] => none
    | _ :: settlements => some { r with settlements }
  | .notify queue => some { r with tasks := r.tasks.notify queue }
  | .cancel => some { r with pool := { r.pool with cancelled := true } }

end WorkerRun

end TaskQueue
