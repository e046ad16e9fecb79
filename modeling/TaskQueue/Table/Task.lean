import TaskQueue.Database.Query
import TaskQueue.Entity.Page

/-!
# The tasks of the database

Queries on tasks, and the reading of a task from a row. The queries that change the state of a task
answer with its identifier, or with null when the task is not in the state they need.
-/

namespace TaskQueue

namespace Task

def ofRow : RowReader Task := fun row => do
  let id ← row.required "id" Datum.int64?
  let ns ← row.required "ns" Datum.text?
  let queue ← row.required "queue" Datum.text?
  let payload ← row.required "payload" Datum.json?
  let result ← row.required "result" Datum.json?
  let worker ← row.optional "worker" Datum.text?
  let createdAt ← row.required "created_at" Datum.timestamp?
  let delayedAt ← row.optional "delayed_at" Datum.timestamp?
  let startedAt ← row.optional "started_at" Datum.timestamp?
  let finishedAt ← row.optional "finished_at" Datum.timestamp?
  let diesAt ← row.optional "dies_at" Datum.timestamp?
  let retries ← row.required "retries" Datum.int32?
  let initialRetries ← row.required "initial_retries" Datum.int32?
  let status ← row.required "status" Datum.text?
  match TaskStatus.ofName? status with
  | some status =>
    return { id, ns, queue, payload, result, worker, createdAt, delayedAt, startedAt, finishedAt,
             diesAt, retries, initialRetries, status }
  | none => throw (.unknownStatus "status")

end Task

namespace TaskTable

def cleanBatchSize : Int64 := 100

/-- The identifier in the only row of a statement, if it is not null. -/
def identifier (s : Statement) : Query (Option Int64) :=
  Query.fetchOne s (Row.firstOptional Datum.int64?)

/-- Adds a task. Its identifier, or nothing when the queue does not exist. -/
def insert (schema ns queue : String) (draft : TaskDraft) : Query (Option Int64) :=
  identifier ⟨schema, .insertTask ns queue draft.payload draft.delayedAt⟩

def find (schema ns : String) (id : Int64) : Query (Option Task) :=
  Query.fetchOptional ⟨schema, .findTask ns id⟩ Task.ofRow

/-- Claims the oldest task that may start. Its identifier, or nothing when there is none. -/
def lock (schema ns worker : String) : Query (Option Int64) :=
  identifier ⟨schema, .lockTask ns worker⟩

def unlock (schema ns : String) (id : Int64) (result : Json) : Query (Option Int64) :=
  identifier ⟨schema, .unlockTask ns id result⟩

def fail (schema ns : String) (id : Int64) (result : Json) : Query (Option Int64) :=
  identifier ⟨schema, .failTask ns id result⟩

def giveBack (schema ns : String) (id : Int64) (worker : String) : Query (Option Int64) :=
  identifier ⟨schema, .returnTask ns id worker⟩

/-- The number of tasks of a namespace, or of a queue of it, of one status or of all. -/
def count (schema ns : String) (queue : Option String) (page : TaskPage) : Query Int64 :=
  Query.fetchOne ⟨schema, .countTasks ns queue page.status⟩ (Row.first Datum.int64?)

/-- A page of the tasks of a namespace, or of a queue of it, oldest first. -/
def list (schema ns : String) (queue : Option String) (page : TaskPage) : Query (List Task) :=
  Query.fetchAll ⟨schema, .listTasks ns queue page.status page.page.bounds.1 page.page.bounds.2⟩
    Task.ofRow

/-- Deletes a batch of the tasks of a queue that are over, and returns them. -/
def clean (schema ns queue : String) : Query (List Task) :=
  Query.fetchAll ⟨schema, .cleanQueue ns queue cleanBatchSize⟩ Task.ofRow

end TaskTable

end TaskQueue
