import TaskQueue.Worker.Session

/-!
# Reports

What the requests of a run and the records of its jobs tell: which tasks were settled and how, how
often each queue was swept, for whom tasks were claimed, and which callbacks ran.
-/

namespace TaskQueue

def Command.settles? : Command → Option Int64
  | unlockTask _ id _ => some id
  | failTask _ id _ => some id
  | returnTask _ id _ => some id
  | _ => none

/-- The order of reports: tickers by name, and then tasks by number. -/
def Subject.comesBefore : Subject → Subject → Bool
  | ticker a, ticker b => a.ticker ≤ b.ticker
  | ticker _, task _ => true
  | task _, ticker _ => false
  | task a, task b => a.id ≤ b.id

namespace WorkerSession

def commands (s : WorkerSession) : List Command :=
  s.sent.reverse.filterMap fun
    | .run statement => some statement.command
    | _ => none

/-- The commands that settled tasks, with the tasks, in the order of the tasks. -/
def settled (s : WorkerSession) : List (Int64 × Command) :=
  (s.commands.filterMap fun c => c.settles?.map fun id => (id, c)).mergeSort fun a b => a.1 ≤ b.1

/-- How many batches were deleted, by the name of the cleanup ticker of the queue. -/
def swept (s : WorkerSession) : List (String × Nat) :=
  let names := s.commands.filterMap fun
    | .cleanQueue ns queue _ => some (CleanupTicker.name ns queue)
    | _ => none
  names.eraseDups.map fun name => (name, names.count name)

/-- For whom tasks were claimed, in alphabetical order. -/
def claimants (s : WorkerSession) : List String :=
  let workers := s.commands.filterMap fun
    | .lockTask _ worker => some worker
    | _ => none
  workers.eraseDups.mergeSort (· ≤ ·)

def ran (s : WorkerSession) : List (Job Work × JobRecord) :=
  ((s.run.pool.jobs.zip s.records).filter (·.2.started.isSome)).mergeSort fun a b =>
    a.1.context.subject.comesBefore b.1.context.subject

end WorkerSession

end TaskQueue
