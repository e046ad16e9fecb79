import TaskQueue.Manager.Queues

/-!
# Sweeps

A cleanup ticker names a queue. When it fires, the queue is swept: batch after batch of its tasks
that are over is deleted, until a batch is empty, a deletion fails, or the sweep is cancelled. A
ticker that names no queue leads to no deletion.
-/

namespace TaskQueue

namespace Sweep

inductive Phase where
  | ready
  | deleting
  | ended (result : Except OperationError Unit)

inductive Move where
  /-- It sees whether it was cancelled, and begins to delete a batch if it was not. -/
  | look
  | deleted (result : Except OperationError (List Task))

end Sweep

structure Sweep where
  ns : String
  queue : String
  phase : Sweep.Phase := .ready

namespace Sweep

def ofTicker (ticker : Ticker) : Sweep :=
  match CleanupTicker.parse? ticker.ticker with
  | some (ns, queue) => { ns, queue }
  | none => { ns := "", queue := "", phase := .ended (.ok ()) }

def result? (s : Sweep) : Option (Except OperationError Unit) :=
  match s.phase with
  | .ended result => some result
  | _ => none

def afterDeletion : Except OperationError (List Task) → Phase
  | .ok [] => .ended (.ok ())
  | .ok (_ :: _) => .ready
  | .error e => .ended (.error e)

def step? (cancelled : Bool) (m : Move) (s : Sweep) : Option Sweep :=
  match m, s.phase with
  | .look, .ready =>
    some { s with phase := if cancelled then .ended (.ok ()) else .deleting }
  | .deleted result, .deleting => some { s with phase := afterDeletion result }
  | _, _ => none

/-- The next turn of a sweep for a manager, if it did not end. -/
def turn? (m : Manager) (s : Sweep) : Option (Dialogue Move) :=
  match s.phase with
  | .ready => some (.done .look)
  | .deleting => some (Move.deleted <$> ((m.within s.ns).cleanQueue s.queue).run)
  | .ended _ => none

end Sweep

end TaskQueue
