import TaskQueue.Database.Dialogue
import TaskQueue.Name

/-!
# Backlogs

A server that knows what is there for a worker: the tasks that can be claimed, the tickers that are
due, and the batches that a sweep deletes. Each command is answered by its kind, so it does not
matter in which order the loops of a worker ask.
-/

namespace TaskQueue

structure Backlog where
  /-- The replies to claims of tasks. -/
  claims : List Reply := []
  /-- The tasks that can be read. -/
  tasks : List (Int64 × Row) := []
  /-- The replies to claims of tickers, by namespace. -/
  ticks : List (String × List Reply) := []
  /-- The replies to deletions, by the name of the cleanup ticker of the queue. -/
  batches : List (String × List Reply) := []
  /-- The tasks that are retained no more when they are settled. -/
  unretained : List Int64 := []
  /-- The tasks whose settlement fails. -/
  failing : List Int64 := []

namespace Backlog

def single (d : Datum) : Reply := .rows [[("", d)]]

def take? (name : String) :
    List (String × List Reply) → Option Reply × List (String × List Reply)
  | [] => (none, [])
  | (key, replies) :: rest =>
    if key = name then
      match replies with
      | reply :: replies => (some reply, (key, replies) :: rest)
      | [] => (none, (key, []) :: rest)
    else
      let (reply, rest) := take? name rest
      (reply, (key, replies) :: rest)

def settle (b : Backlog) (id : Int64) : Reply :=
  if b.failing.contains id then .failed "40001" "could not serialize access"
  else if b.unretained.contains id then single .null
  else single (.int id.toInt)

def answer (b : Backlog) : Command → Reply × Backlog
  | .lockTask _ _ =>
    match b.claims with
    | reply :: claims => (reply, { b with claims })
    | [] => (single .null, b)
  | .findTask _ id => (.rows (b.tasks.lookup id).toList, b)
  | .unlockTask _ id _ | .failTask _ id _ | .returnTask _ id _ => (b.settle id, b)
  | .nextTicker ns =>
    let (reply, ticks) := take? ns b.ticks
    (reply.getD .empty, { b with ticks })
  | .cleanQueue ns queue _ =>
    let (reply, batches) := take? (CleanupTicker.name ns queue) b.batches
    (reply.getD .empty, { b with batches })
  | _ => (.empty, b)

/-- The server that answers from a backlog. Everything that is no command succeeds. -/
def server : Dialogue.Server Backlog
  | .run s, b => b.answer s.command
  | _, b => (.empty, b)

end Backlog

end TaskQueue
