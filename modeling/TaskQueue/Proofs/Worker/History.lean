import TaskQueue.Proofs.TaskLoop.History
import TaskQueue.Proofs.Worker.Attempt
import TaskQueue.Proofs.Worker.Step

/-!
# Histories of a worker

A run of a worker with the record of its tasks: what the task loop did about them, what the
dispatcher made of each that it received, and how it was attempted to settle them. The task loop and
the settlements hear any replies from the database, which may be lost in the middle of a dialogue;
what the other loops learn from it is part of their moves. Callbacks end at any time and in any way,
and time passes, tasks are announced, the connection of the stream is lost and the worker is
cancelled in any order.
-/

namespace TaskQueue

/-- What the dispatcher made of a task: it had expired, its queue has no callback, or it was
submitted as a job. -/
inductive DispatchOutcome where
  | expired
  | unhandled
  | submitted (job : Nat)
deriving DecidableEq, Repr

/-- A task that the dispatcher received, and the moment at which it looked at it. -/
structure Dispatched where
  task : Task
  moment : Timestamp
  outcome : DispatchOutcome

namespace Dispatched

def job? (d : Dispatched) : Option Nat :=
  match d.outcome with
  | .submitted i => some i
  | .expired | .unhandled => none

/-- The settlement that a job calls for at its stage, if it is over. -/
def ofJob (id : Int64) (j : Job Work) : Option Settlement :=
  match j.stage with
  | .refused _ => some (.giveBack id)
  | .ended result => some (.ofResult id result)
  | .waiting | .queued | .running .. => none

/-- The settlement that a task calls for, as far as its job has come. -/
def settlement? (p : Pool Work) (d : Dispatched) : Option Settlement :=
  match d.outcome with
  | .expired => none
  | .unhandled => some (.fail d.task.id (WorkerRun.noHandlerMessage d.task.queue))
  | .submitted i => (p.jobs[i]?).bind (ofJob d.task.id)

/-- Whether the outcome is the one that the rules of the dispatcher give, with the job of the pool
that was made for the task. -/
def Fits (w : Worker) (p : Pool Work) (d : Dispatched) : Prop :=
  match d.outcome with
  | .expired => d.task.statusAt d.moment = .expired
  | .unhandled => d.task.statusAt d.moment ≠ .expired ∧ w.queues.find? d.task.queue = none
  | .submitted i => d.task.statusAt d.moment ≠ .expired ∧ (w.queues.find? d.task.queue).isSome ∧
    ∃ j, p.jobs[i]? = some j ∧ j.context.subject = .task d.task

end Dispatched

/-- A run with the clock and the record of its tasks. -/
structure WorkerHistory where
  now : Instant
  run : WorkerRun
  tasks : TaskLoop.Record := {}
  dispatched : List Dispatched := []
  /-- The settlements that were carried out. -/
  settled : List Settlement := []
  /-- All attempts to settle a task, by the task loop and by the settlements. -/
  attempts : List Attempt := []

namespace WorkerHistory

inductive Event where
  /-- The task loop takes a turn. -/
  | turn (replies : List Reply) (lost : DatabaseError := .connectionCrashed)
  /-- The first settlement is carried out. -/
  | settle (replies : List Reply) (lost : DatabaseError := .connectionCrashed)
  /-- Any other move. -/
  | move (m : WorkerRun.Move)
  | pass (nanos : Nat)
  /-- The connection of the task loop's stream is lost. -/
  | disconnect

def start (w : Worker) (now : Instant) (jitter cleanupJitter : Span) :
    Except Fault WorkerHistory := do
  return { now, run := ← WorkerRun.start w now jitter cleanupJitter }

def outcomeOf (w : Worker) (p : Pool Work) (t : Task) (moment : Timestamp) : DispatchOutcome :=
  if t.statusAt moment = .expired then .expired
  else if (w.queues.find? t.queue).isNone then .unhandled
  else .submitted p.jobs.length

/-- The task that a dispatch is about to take, and what it makes of it. -/
def dispatching (w : Worker) (r : WorkerRun) (moment : Timestamp) : Option Dispatched :=
  r.tasks.receive?.map fun (t, _) => ⟨t, moment, outcomeOf w r.pool t moment⟩

/-- The record before a move, with what the move adds to it. -/
def note (w : Worker) (h : WorkerHistory) (m : WorkerRun.Move) : WorkerHistory :=
  match m with
  | .taskLoop m => { h with tasks := h.tasks.note h.run.tasks m }
  | .dispatch .tasks moment =>
    { h with dispatched := h.dispatched ++ (dispatching w h.run moment).toList }
  | .settled _ => { h with settled := h.settled ++ h.run.settlements.head?.toList }
  | _ => h

def move? (w : Worker) (m : WorkerRun.Move) (h : WorkerHistory) : Option WorkerHistory :=
  (h.run.step? w h.now m).map fun run => { h.note w m with run }

def attempt (h : WorkerHistory) (s : Option Settlement) (asked : List Request) : WorkerHistory :=
  { h with attempts := h.attempts ++ (s.map (Attempt.mk · asked)).toList }

/-- What the task loop is about to settle: the task that it gives back. -/
def handing (h : WorkerHistory) : Option Settlement :=
  h.run.tasks.phase.returns?.map .giveBack

/-- Whether a move belongs to a turn of the task loop or of the settlements. -/
def isTurn : WorkerRun.Move → Bool
  | .taskLoop _ | .settled _ => true
  | _ => false

def step? (w : Worker) (e : Event) (h : WorkerHistory) : Option WorkerHistory :=
  match e with
  | .turn replies lost =>
    (h.run.tasks.take? w.manager h.now h.run.cancelled replies lost).bind fun (asked, m) =>
      (h.attempt h.handing asked).move? w (.taskLoop m)
  | .settle replies lost =>
    h.run.settlements.head?.bind fun s =>
      let (asked, result?) := (s.carryOut w.manager).run.hear replies
      (h.attempt (some s) asked).move? w (.settled (result?.getD (.error (.ofDatabase lost))))
  | .move m => if isTurn m then none else h.move? w m
  | .pass nanos => some { h with now := h.now + nanos }
  | .disconnect =>
    let tasks := { h.run.tasks with stream := h.run.tasks.stream.disconnect }
    some { h with run := { h.run with tasks } }

variable {w : Worker} {h h' : WorkerHistory} {m : WorkerRun.Move}

theorem move?_eq_some (hs : h.move? w m = some h') :
    ∃ run, WorkerRun.Step w h.now h.run m run ∧ h' = { h.note w m with run } := by
  obtain ⟨run, hr, rfl⟩ := Option.map_eq_some_iff.mp hs
  exact ⟨run, WorkerRun.step?_sound hr, rfl⟩

theorem step?_move (hs : step? w (.move m) h = some h') : isTurn m = false ∧
    ∃ run, WorkerRun.Step w h.now h.run m run ∧ h' = { h.note w m with run } := by
  simp only [step?] at hs
  split at hs
  · cases hs
  · rename_i hm
    exact ⟨Bool.eq_false_iff.mpr hm, move?_eq_some hs⟩

end WorkerHistory

end TaskQueue
