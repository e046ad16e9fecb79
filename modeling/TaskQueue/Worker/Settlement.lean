import TaskQueue.Manager.Tasks
import TaskQueue.Pool.Failure

/-!
# Settlements

A claimed task is settled once: it is released when its callback went well, failed when it did not,
and given back when the callback was never run.
-/

namespace TaskQueue

inductive Settlement where
  | release (id : Int64)
  | fail (id : Int64) (reason : String)
  /-- The task was not run, and keeps its attempts. -/
  | giveBack (id : Int64)
deriving Repr, DecidableEq

namespace Settlement

def ofResult (id : Int64) (result : RunResult) : Settlement :=
  if result.isOk then release id else fail id result.message

def id : Settlement → Int64
  | release id => id
  | fail id _ => id
  | giveBack id => id

/-- Carries out a settlement. A task that is released has no result. -/
def carryOut (m : Manager) : Settlement → Action Task
  | release id => m.releaseTask id .null
  | fail id reason => m.failTask id (.text reason)
  | giveBack id => m.returnTask id

end Settlement

end TaskQueue
