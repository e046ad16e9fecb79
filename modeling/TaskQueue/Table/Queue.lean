import TaskQueue.Database.Query
import TaskQueue.Entity.Page
import TaskQueue.Entity.Queue

/-!
# The queues of the database

Queries on queues, and the reading of a queue from a row.
-/

namespace TaskQueue

namespace Queue

def ofRow : RowReader Queue := fun row => do
  let ttl ← row.optional "ttl" Datum.interval?
  let retryDelay ← row.required "retry_delay" Datum.interval?
  let ns ← row.required "ns" Datum.text?
  let queue ← row.required "queue" Datum.text?
  let retries ← row.required "retries" Datum.int32?
  return { ns, queue, ttl := ttl.map Interval.toSpan, retries, retryDelay := retryDelay.toSpan }

end Queue

namespace QueueCount

def ofRow : RowReader QueueCount := fun row => do
  let queue ← row.required "queue" Datum.text?
  let status ← row.required "status" Datum.text?
  let status ←
    match TaskStatus.ofName? status with
    | some status => .ok status
    | none => .error (.unknownStatus "status")
  let count ← row.required "count" Datum.int64?
  return { queue, status, count }

end QueueCount

namespace QueueTable

def find (schema ns queue : String) : Query (Option Queue) :=
  Query.fetchOptional ⟨schema, .findQueue ns queue⟩ Queue.ofRow

/-- Adds a queue with the usual attributes unless it exists. Whether it was added. -/
def insert (schema ns queue : String) : Query Bool :=
  Query.execute ⟨schema, .insertQueue ns queue⟩

def delete (schema ns queue : String) : Query (Option Queue) :=
  Query.fetchOptional ⟨schema, .deleteQueue ns queue⟩ Queue.ofRow

def count (schema ns : String) : Query Int64 :=
  Query.fetchOne ⟨schema, .countQueues ns⟩ (Row.first Datum.int64?)

def list (schema ns : String) (page : Page) : Query (List Queue) :=
  Query.fetchAll ⟨schema, .listQueues ns page.bounds.1 page.bounds.2⟩ Queue.ofRow

/-- The number of tasks by status, of one queue or of all queues of a namespace. -/
def status (schema ns : String) (queue : Option String) : Query (List QueueCount) :=
  Query.fetchAll ⟨schema, .queueStatus ns queue⟩ QueueCount.ofRow

end QueueTable

end TaskQueue
