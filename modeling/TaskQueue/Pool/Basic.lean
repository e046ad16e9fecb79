import TaskQueue.Context
import TaskQueue.Pool.Failure

/-!
# Pools

A pool runs callbacks for its callers: `size` at a time, with `size` more in a queue. A caller that
finds the queue full waits. All jobs are kept in one list in the order in which their calls began,
each at its stage, so that jobs are admitted to the queue, and taken from it, in that order.

The moves of a pool are its own (admitting, refusing, starting, noticing that a job is late) and
those of its surroundings (a call begins, a callback ends, the parent is cancelled, the pool is
closed). A move that cannot be made in a state leads nowhere.
-/

namespace TaskQueue

inductive Stage where
  /-- Its call waits for room in the queue. -/
  | waiting
  | refused (why : Refusal)
  | queued
  /-- Its callback runs since an instant; whether its time was up before it ended. -/
  | running (since : Instant) (late : Bool)
  | ended (result : RunResult)
deriving Repr, DecidableEq

/-- A job: what is to be run, the context it is run in, the time it is given, and whether it was
told to stop on its own account. -/
structure Job (α : Type) where
  work : α
  context : Context
  limit : Option Span
  cancelled : Bool := false
  stage : Stage := .waiting
deriving Repr

namespace Job

variable {α : Type}

def isWaiting (j : Job α) : Bool := j.stage = .waiting

/-- Whether a job was admitted and waits for a free worker. -/
def isQueued (j : Job α) : Bool := j.stage = .queued

def isRunning (j : Job α) : Bool :=
  match j.stage with
  | .running .. => true
  | _ => false

def isOver (j : Job α) : Bool :=
  match j.stage with
  | .refused _ => true
  | .ended _ => true
  | _ => false

/-- The instant at which the time of a running job is up, unless it was noticed already. -/
def due? (j : Job α) : Option Instant :=
  match j.stage, j.limit with
  | .running since false, some limit => some (since + limit.nanos)
  | _, _ => none

/-- The result of a callback that ends, with a failure of its own or without. A job that was late
fails for it in any case. -/
def resultOf (j : Job α) (late : Bool) (failure : Option Failure) : RunResult :=
  ⟨failure.toList ++ if late then (j.limit.map Failure.deadlineExceeded).toList else []⟩

end Job

structure Pool (α : Type) where
  size : Nat
  closed : Bool := false
  /-- Whether the parent of all jobs was cancelled. -/
  cancelled : Bool := false
  jobs : List (Job α) := []
deriving Repr

namespace Pool

variable {α : Type}

def ofSize (size : Nat) : Pool α :=
  { size := max size 1 }

def running (p : Pool α) : Nat := p.jobs.countP Job.isRunning

def queued (p : Pool α) : Nat := p.jobs.countP Job.isQueued

def waiting (p : Pool α) : Nat := p.jobs.countP Job.isWaiting

def isDrained (p : Pool α) : Bool := p.jobs.all Job.isOver

/-- Whether the context of a job is cancelled: for all jobs, or for this one. -/
def isCancelled (p : Pool α) (j : Job α) : Bool := p.cancelled || j.cancelled

def modify (p : Pool α) (i : Nat) (f : Job α → Job α) : Pool α :=
  { p with jobs := p.jobs.modify i f }

def setStage (p : Pool α) (i : Nat) (stage : Stage) : Pool α :=
  p.modify i fun j => { j with stage }

/-- The stage at which a call begins: a closed pool refuses it. -/
def firstStage (p : Pool α) : Stage :=
  if p.closed then .refused .closed else .waiting

inductive Move (α : Type) where
  | call (worker : String) (subject : Subject) (limit : Option Span) (work : α)
  /-- A waiting call is refused because the parent was cancelled. -/
  | refuse (i : Nat)
  /-- The first waiting call is admitted to the queue. -/
  | enqueue
  /-- A free worker takes the first job of the queue. -/
  | start
  /-- The time of a running job is up: it is told to stop. -/
  | expire (i : Nat)
  /-- The callback of a running job ends. -/
  | finish (i : Nat) (failure : Option Failure)
  | cancel
  | close

/-- The state after a move at an instant, if the move can be made. -/
def step? (now : Instant) (m : Move α) (p : Pool α) : Option (Pool α) :=
  match m with
  | .call worker subject limit work =>
    (Context.make? worker subject now limit).map fun context =>
      { p with jobs := p.jobs ++ [{ work, context, limit, stage := p.firstStage }] }
  | .refuse i =>
    if p.cancelled && (p.jobs[i]?).any Job.isWaiting then
      some (p.setStage i (.refused .cancelled))
    else none
  | .enqueue =>
    if !p.cancelled && p.queued < p.size then
      (p.jobs.findIdx? Job.isWaiting).map (p.setStage · .queued)
    else none
  | .start =>
    if p.running < p.size then
      (p.jobs.findIdx? Job.isQueued).map (p.setStage · (.running now false))
    else none
  | .expire i =>
    match p.jobs[i]? with
    | some { stage := .running since false, limit := some limit, .. } =>
      if since + limit.nanos ≤ now then
        some (p.modify i fun j => { j with cancelled := true, stage := .running since true })
      else none
    | _ => none
  | .finish i failure =>
    match p.jobs[i]? with
    | some j =>
      match j.stage with
      | .running _ late => some (p.setStage i (.ended (j.resultOf late failure)))
      | _ => none
    | none => none
  | .cancel => some { p with cancelled := true }
  | .close => some { p with closed := true }

def indices (p : Pool α) : List Nat := List.range p.jobs.length

def canMove (now : Instant) (p : Pool α) (m : Move α) : Bool := (p.step? now m).isSome

/-- The moves that the pool can make on its own at an instant. A late job is noticed before
anything else happens; then calls are refused, jobs put to work and calls admitted. -/
def ownMoves (now : Instant) (p : Pool α) : List (Move α) :=
  (p.indices.map Move.expire ++ p.indices.map Move.refuse ++ [Move.start, Move.enqueue]).filter
    (p.canMove now)

/-- The next instant at which the time of a running job is up. -/
def nextDue? (p : Pool α) : Option Instant :=
  (p.jobs.filterMap Job.due?).min?

end Pool

end TaskQueue
