import TaskQueue.Pool.Basic
import TaskQueue.Pool.Submission

/-!
# Crews

A crew is a pool together with the callbacks that its workers run. Its moves are those of the pool;
the callbacks decide which job ends next and why. A crew keeps a record of what was seen of every
job. At any instant it settles: it makes the moves that are possible until none is left.
-/

namespace TaskQueue

/-- A moment in the life of a job: when it was, and whether its context was cancelled. -/
structure Sighting where
  instant : Instant
  cancelled : Bool
deriving Repr, DecidableEq

/-- What was seen of a job: when its call was answered, when its callback began and ended, when its
context was cancelled, and how far it has come; how its result callback will end, and how each call
of that ended. -/
structure JobRecord where
  answered : Option Instant := none
  started : Option Sighting := none
  finished : Option Sighting := none
  stopped : Option Instant := none
  progress : CallbackProgress := { steps := [] }
  onReport : ReportEnd := .returned
  reports : List ReportEnd := []
deriving Repr, Inhabited

/-- The record of a job whose context is cancelled, unless it was before. -/
def JobRecord.stop (now : Instant) (r : JobRecord) : JobRecord :=
  { r with stopped := r.stopped <|> some now }

/-- The record of a job whose result callback is called. A worker catches a panic of it. -/
def JobRecord.report (r : JobRecord) : JobRecord :=
  { r with reports := r.reports ++ [r.onReport] }

/-- A pool with what its workers do. The records stand in the order of the jobs. -/
structure Crew where
  pool : Pool Work
  records : List JobRecord := []

namespace Crew

def ofSize (size : Nat) : Crew :=
  { pool := .ofSize size }

/-! ## Records -/

def sighting (c : Crew) (now : Instant) (i : Nat) : Sighting :=
  ⟨now, (c.pool.jobs[i]?).any c.pool.isCancelled⟩

def note (c : Crew) (i : Nat) (f : JobRecord → JobRecord) : Crew :=
  { c with records := c.records.modify i f }

/-- The crew with the record of a job changed, if there is a job. -/
def note? (c : Crew) (i : Option Nat) (f : JobRecord → JobRecord) : Crew :=
  match i with
  | some i => c.note i f
  | none => c

/-- The progress of a job after one looks at its callback at an instant. -/
def progress (c : Crew) (now : Instant) (j : Job Work) (r : JobRecord) : CallbackProgress :=
  r.progress.poll now (c.pool.isCancelled j)

/-- Looks at the callback of a job, which goes on as far as it can. -/
def pollJob (c : Crew) (now : Instant) (i : Nat) : Crew :=
  match c.pool.jobs[i]? with
  | some j => if j.isRunning then c.note i fun r => { r with progress := c.progress now j r } else c
  | none => c

def pollAll (c : Crew) (now : Instant) : Crew :=
  c.pool.indices.foldl (fun c i => c.pollJob now i) c

/-- A job begins to run. What is run in the open is seen to start. -/
def noteStart (c : Crew) (now : Instant) (i : Nat) : Crew :=
  match c.pool.jobs[i]? with
  | some { work := .callback callback _, .. } =>
    c.note i fun r =>
      { r with started := some (c.sighting now i), progress := .start callback }
  | _ => c

def noteFinish (c : Crew) (now : Instant) (i : Nat) : Crew :=
  c.note i fun r =>
    let finished := if r.started.isSome then some (c.sighting now i) else none
    { r with finished }.report

/-- The record of a job whose call begins. A closed pool answers at once, and a context that is made
after the parent was cancelled is cancelled from the first. -/
def freshRecord (c : Crew) (now : Instant) : JobRecord :=
  { answered := if c.pool.closed then some now else none
    stopped := if c.pool.cancelled then some now else none }

/-- The records after a move, which is made at an instant. -/
def noteMove (c : Crew) (now : Instant) : Pool.Move Work → Crew
  | .call .. => { c with records := c.records ++ [c.freshRecord now] }
  | .refuse i => c.note i fun r => { r with answered := some now }
  | .enqueue =>
    c.note? (c.pool.jobs.findIdx? Job.isWaiting) fun r => { r with answered := some now }
  | .start =>
    match c.pool.jobs.findIdx? Job.isQueued with
    | some i => c.noteStart now i
    | none => c
  | .finish i _ => (c.pollJob now i).noteFinish now i
  | .expire i => c.note i (·.stop now)
  | .cancel => { c with records := c.records.map (·.stop now) }
  | .close => c

/-! ## Moves -/

/-- The state after a move at an instant, if the move can be made. -/
def step? (now : Instant) (m : Pool.Move Work) (c : Crew) : Option Crew :=
  (c.pool.step? now m).map fun pool => { c.noteMove now m with pool }

/-- The state after the call for a job, if it can begin. -/
def call? (now : Instant) (s : Submission) (c : Crew) : Option Crew :=
  (c.step? now (.call s.worker s.subject s.limit s.work)).map fun called =>
    called.note c.pool.jobs.length fun r => { r with onReport := s.onReport }

/-- The move that ends a job which runs and has nothing left to do, and the reason why it fails if
it does. There is none for a job that has, or that is done elsewhere. -/
def finishing? (c : Crew) (now : Instant) (i : Nat) : Option (Pool.Move Work) :=
  match c.pool.jobs[i]?, c.records[i]? with
  | some j, some r =>
    if j.isRunning then
      match j.work with
      | .callback callback _ =>
        if (c.progress now j r).isDone then some (.finish i callback.ending.failure?) else none
      | .undecodable reason => some (.finish i (some (.invalidPayload reason)))
      | .external => none
    else none
  | _, _ => none

/-- The moves that a crew may make by itself at an instant, the most urgent first: a late job is
told to stop before its callback goes on. -/
def ownMoves (c : Crew) (now : Instant) : List (Pool.Move Work) :=
  let jobs := c.pool.indices
  jobs.map .expire ++ jobs.filterMap (c.finishing? now) ++ jobs.map .refuse ++ [.start, .enqueue]

/-- The most urgent move of a crew that can be made at an instant. -/
def next? (c : Crew) (now : Instant) : Option (Pool.Move Work) :=
  (c.ownMoves now).find? (c.pool.canMove now)

def settleFor (now : Instant) : Nat → Crew → Crew
  | 0, c => c
  | fuel + 1, c =>
    match (c.next? now).bind (c.step? now) with
    | some c => settleFor now fuel c
    | none => c.pollAll now

/-- Makes moves until none is left. Each job is admitted or refused, put to work, late and done at
most once. -/
def settle (c : Crew) (now : Instant) : Crew :=
  settleFor now (4 * c.pool.jobs.length + 1) c

/-! ## Timers -/

/-- The instants at which callbacks go on by themselves. -/
def wakes (c : Crew) : List Instant :=
  (c.pool.jobs.zip c.records).filterMap fun (j, r) =>
    if j.isRunning then r.progress.wakes else none

/-- The next instant at which something may happen by itself, as the clock shows it. -/
def nextTimer? (c : Crew) : Option Instant :=
  ((c.pool.nextDue?.toList ++ c.wakes).map Instant.tick).min?

end Crew

end TaskQueue
