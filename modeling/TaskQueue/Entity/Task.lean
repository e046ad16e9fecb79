import TaskQueue.Json.Basic
import TaskQueue.Text.Quoted
import TaskQueue.Time.Timestamp

/-!
# Tasks

A task is a payload waiting in a queue. Its status is not stored: it is derived from its timestamps
and its counters, at a moment. Expiry comes before everything else.
-/

namespace TaskQueue

inductive TaskStatus where
  | expired
  | new
  | failed
  | retry
  | retained
  | released
  | unknown
deriving DecidableEq, Repr, Inhabited

namespace TaskStatus

/-- Every status, in the order in which they are listed. -/
def all : List TaskStatus := [expired, new, failed, retry, retained, released, unknown]

def name : TaskStatus → String
  | expired => "expired"
  | new => "new"
  | failed => "failed"
  | retry => "retry"
  | retained => "retained"
  | released => "released"
  | unknown => "unknown"

def ofName? (s : String) : Option TaskStatus :=
  all.find? (·.name = s)

def unknownMessage (s : String) : String :=
  s!"Unknown task status {Text.quote s}"

/-- The status of a task with the given timestamps and remaining and initial attempts. -/
def derive (startedAt finishedAt diesAt : Option Timestamp) (retries initialRetries : Int32)
    (now : Timestamp) : TaskStatus :=
  if diesAt.any (·.before now) then expired
  else
    match startedAt, finishedAt with
    | none, none =>
      if retries = initialRetries then new else if retries = 0 then failed else retry
    | some _, none => retained
    | some _, some _ => released
    | none, some _ => unknown

end TaskStatus

/-- A task. The status is the one the database derived when the task was read. -/
structure Task where
  id : Int64
  ns : String
  queue : String
  payload : Json
  result : Json
  worker : Option String
  createdAt : Timestamp
  delayedAt : Option Timestamp
  startedAt : Option Timestamp
  finishedAt : Option Timestamp
  diesAt : Option Timestamp
  retries : Int32
  initialRetries : Int32
  status : TaskStatus
deriving Repr, Inhabited

namespace Task

/-- A task with nothing but defaults, created at the given moment. -/
def blank (createdAt : Timestamp) : Task where
  id := 0
  ns := ""
  queue := ""
  payload := .object []
  result := .null
  worker := none
  createdAt := createdAt
  delayedAt := none
  startedAt := none
  finishedAt := none
  diesAt := none
  retries := 3
  initialRetries := 3
  status := .new

def statusAt (t : Task) (now : Timestamp) : TaskStatus :=
  .derive t.startedAt t.finishedAt t.diesAt t.retries t.initialRetries now

/-- The time a task has left at a moment: empty once it expired, nothing when it never expires. -/
def timeToLive (t : Task) (now : Timestamp) : Option Span :=
  t.diesAt.map (·.spanSince now)

end Task

/-- What a new task is made of. It does not start before the time it is delayed to. -/
structure TaskDraft where
  payload : Json
  delayedAt : Option Timestamp := none
deriving Repr, Inhabited

structure QueueCount where
  queue : String
  status : TaskStatus
  count : Int64
deriving DecidableEq, Repr, Inhabited

end TaskQueue
