import TaskQueue.Pool.Crew
import TaskQueue.Worker.Backlog
import TaskQueue.Worker.Sweep
import TaskQueue.Worker.Turn

/-!
# Running a worker

A run of a worker against a backlog, with the callbacks it runs and the sweeps it makes, while the
clock is moved, tasks are announced, and the worker is cancelled. At any instant the run settles:
everything happens that can happen.
-/

namespace TaskQueue

/-- What happens to a worker that runs: the clock moves on, a task is announced, or the worker is
cancelled. -/
structure WorkerEvent where
  millis : Nat := 0
  notify : Option String := none
  cancel : Bool := false

structure WorkerSession where
  worker : Worker
  /-- The date on which everything happens. -/
  moment : Timestamp
  now : Instant := 0
  run : WorkerRun
  /-- What was seen of the jobs of the pool. -/
  records : List JobRecord := []
  /-- The sweeps that began, by job. -/
  sweeps : List (Nat × Sweep) := []
  backlog : Backlog
  /-- The requests that were sent, the last one first. -/
  sent : List Request := []

namespace WorkerSession

def stepMillis : Nat := 5

/-- The random part of the start delay of the loops of tickers. -/
def jitter : Span := .ofMillis 50

def start (worker : Worker) (moment : Timestamp) (backlog : Backlog) :
    Except Fault WorkerSession := do
  return { worker, moment, backlog, run := ← WorkerRun.start worker 0 jitter jitter }

def crew (s : WorkerSession) : Crew := ⟨s.run.pool, s.records⟩

def isOver (s : WorkerSession) : Bool := s.run.isOver

/-! ## Settling -/

/-- The session after a turn of the run. A job that is new gets a record. -/
def takeTurn? (s : WorkerSession) (turn : Dialogue WorkerRun.Move) : Option WorkerSession := do
  let t := turn.run Backlog.server s.backlog
  let run ← s.run.step? s.worker s.now t.result
  let fresh := s.crew.freshRecord s.now
  let records := s.records ++ .replicate (run.pool.jobs.length - s.records.length) fresh
  return { s with run, records, backlog := t.server, sent := t.log.reverse ++ s.sent }

def movePool? (s : WorkerSession) (m : Pool.Move Work) : Option WorkerSession := do
  let run ← s.run.step? s.worker s.now (.pool m)
  return { s with run, records := (s.crew.noteMove s.now m).records }

def sweep? (s : WorkerSession) (i : Nat) : Option (Job Work × Sweep) :=
  match s.run.pool.jobs[i]? with
  | some j =>
    match j.isRunning, j.work, j.context.subject with
    | true, .external, .ticker t => some (j, (s.sweeps.lookup i).getD (.ofTicker t))
    | _, _, _ => none
  | none => none

/-- The next turn of the sweep of a job; a sweep that ended ends its job. -/
def stepSweep? (s : WorkerSession) (i : Nat) : Option WorkerSession := do
  let (j, sweep) ← s.sweep? i
  match sweep.result? with
  | some (.ok _) => s.movePool? (.finish i none)
  | some (.error e) => s.movePool? (.finish i (some (.callback e.message)))
  | none =>
    let turn ← sweep.turn? s.worker.manager
    let t := turn.run Backlog.server s.backlog
    let sweep ← sweep.step? (s.run.pool.isCancelled j) t.result
    return { s with
      sweeps := (i, sweep) :: s.sweeps, backlog := t.server, sent := t.log.reverse ++ s.sent }

/-- Does the next thing that can be done, if there is one. -/
def step? (s : WorkerSession) : Option WorkerSession :=
  (s.crew.next? s.now).bind s.movePool? <|>
    s.run.pool.indices.findSome? s.stepSweep? <|>
    (s.run.turn? s.worker s.now s.moment).bind s.takeTurn?

def pollAll (s : WorkerSession) : WorkerSession :=
  { s with records := (s.crew.pollAll s.now).records }

def settleFor : Nat → WorkerSession → WorkerSession
  | 0, s => s.pollAll
  | fuel + 1, s =>
    match s.step? with
    | some s => settleFor fuel s
    | none => s.pollAll

/-- How many things are there that may still be done: each leads to a few steps. -/
def pending (s : WorkerSession) : Nat :=
  s.backlog.claims.length + (s.backlog.ticks.flatMap (·.2)).length +
    (s.backlog.batches.flatMap (·.2)).length + s.run.tasks.stream.inbox.length +
    s.run.pool.jobs.length + s.run.settlements.length

/-- Lets everything happen that can happen at this instant. -/
def settle (s : WorkerSession) : WorkerSession :=
  settleFor (16 * (s.pending + stepMillis + 4)) s

/-! ## Events -/

def pass : Nat → WorkerSession → WorkerSession
  | 0, s => s
  | steps + 1, s => pass steps { s with now := s.now + Instant.ofMillis stepMillis }.settle

/-- Moves the clock step by step until the run has returned. -/
def passUntilOver : Nat → WorkerSession → WorkerSession
  | 0, s => s
  | steps + 1, s =>
    if s.isOver then s
    else passUntilOver steps { s with now := s.now + Instant.ofMillis stepMillis }.settle

def tell (s : WorkerSession) (m : WorkerRun.Move) : WorkerSession :=
  { s with run := (s.run.step? s.worker s.now m).getD s.run }

def cancel (s : WorkerSession) : WorkerSession :=
  { s.tell .cancel with records := (s.crew.noteMove s.now .cancel).records }

def apply (s : WorkerSession) (e : WorkerEvent) : WorkerSession :=
  let s := s.pass (e.millis / stepMillis)
  let s := match e.notify with
    | some queue => (s.tell (.notify queue)).settle
    | none => s
  if e.cancel then s.cancel.settle else s

def watch (s : WorkerSession) : List WorkerEvent → List WorkerSession
  | [] => []
  | e :: events =>
    let s := s.apply e
    s :: watch s events

/-- How many milliseconds a run is given to return after the last event. -/
def graceMillis : Nat := 5000

/-- Runs a worker: the sessions after each event, and the one in which the run returned if it did
so in time. -/
def runEvents (s : WorkerSession) (events : List WorkerEvent) :
    List WorkerSession × WorkerSession :=
  let s := s.settle
  let seen := s.watch events
  (seen, (seen.getLast?.getD s).passUntilOver (graceMillis / stepMillis))

end WorkerSession

end TaskQueue
