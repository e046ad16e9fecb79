import TaskQueue.Manager.Tickers
import TaskQueue.Table.Task
import TaskQueue.Text.Blank
import TaskQueue.Time.Printer

/-!
# Operations on tasks

Creating, claiming, settling and listing tasks. A claimed task is retained until it is released,
failed or returned.
-/

namespace TaskQueue.Manager

def taskThing (id : Int64) : String := s!"task {id}"

def retainedThing (id : Int64) : String := s!"retained task {id}"

/-- Adds a task to a queue. It cannot be delayed to the past. -/
def createTask (m : Manager) (now : Timestamp) (queue : String) (draft : TaskDraft) :
    Action Task := do
  let queue ← Action.name "queue" queue
  if let some delayedAt := draft.delayedAt then
    if delayedAt.before now then
      throw (.badRequest s!"Task delayed to {delayedAt.renderInMessage}, which is in the past")
  Action.transaction do
    let id ← Action.found s!"queue {queue}" (TaskTable.insert m.schema m.ns queue draft)
    let task ← Action.found (taskThing id) (TaskTable.find m.schema m.ns id)
    return .keep task

/-- Claims the oldest task that may start for a worker, if there is one. -/
def retainTaskAs (m : Manager) (worker : String) : Action (Option Task) := do
  if Text.isBlankText worker then
    throw (.badRequest "Missing worker name")
  Action.transaction do
    match ← Action.ofQuery (TaskTable.lock m.schema m.ns worker) with
    | none => return .discard none
    | some id => return .keep (← Action.ofQuery (TaskTable.find m.schema m.ns id))

/-- Claims the oldest task that may start for the manager's worker, if there is one. -/
def retainTask (m : Manager) : Action (Option Task) :=
  m.retainTaskAs m.worker

/-- Changes the state of a retained task, and returns the task. -/
def settle (m : Manager) (id : Int64) (change : Query (Option Int64)) : Action Task :=
  Action.transaction do
    let _ ← Action.found (retainedThing id) change
    let task ← Action.found (taskThing id) (TaskTable.find m.schema m.ns id)
    return .keep task

def releaseTask (m : Manager) (id : Int64) (result : Json) : Action Task :=
  m.settle id (TaskTable.unlock m.schema m.ns id result)

/-- Fails a retained task; it is tried again if it has attempts left. -/
def failTask (m : Manager) (id : Int64) (result : Json) : Action Task :=
  m.settle id (TaskTable.fail m.schema m.ns id result)

/-- Gives back a task retained by the manager's worker, with its attempts untouched. -/
def returnTask (m : Manager) (id : Int64) : Action Task :=
  m.settle id (TaskTable.giveBack m.schema m.ns id m.worker)

def getTask (m : Manager) (id : Int64) : Action Task :=
  Action.found (taskThing id) (TaskTable.find m.schema m.ns id)

def listTasks (m : Manager) (queue : Option String) (page : TaskPage) :
    Action (Listing Task) := do
  let queue ← Action.optionalName "queue" queue
  Action.transaction do
    let count ← Action.ofQuery (TaskTable.count m.schema m.ns queue page)
    let body ← Action.ofQuery (TaskTable.list m.schema m.ns queue page)
    return .keep { count := Listing.countOf count, body }

end TaskQueue.Manager
