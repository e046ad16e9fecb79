import TaskQueue.Manager.Tickers
import TaskQueue.Table.Queue
import TaskQueue.Table.Task

/-!
# Operations on queues

Registering, finding, listing, changing, deleting and cleaning queues. The cleanup ticker of a
queue is registered, renamed and deleted in the same transaction as the queue, and its interval
follows the queue's time to live.
-/

namespace TaskQueue.Manager

/-- The interval at which a queue without a time to live is cleaned. -/
def defaultCleanupInterval : Span := .ofSecs 3600

def queueThing (name : String) : String := s!"queue {name}"

/-- The retries of a patch, as the database takes them. -/
def patchRetries (retries : UInt32) : Except OperationError Int32 :=
  if retries.toNat < Nat.pow 2 31 then .ok (Int32.ofNat retries.toNat)
  else .error (.badRequest s!"Queue retries {retries} exceed 2147483647")

/-- The command that applies a patch to a queue. A name that is empty leaves the name as it is. -/
def patchCommand (ns queue : String) (patch : QueuePatch) : Except OperationError Command := do
  let rename := if patch.queue.isEmpty then none else some patch.queue
  let ttl ←
    match patch.ttl with
    | .set ttl => some <$> OperationError.interval ttl
    | _ => .ok none
  let retries ← patch.retries.mapM patchRetries
  let retryDelay ← patch.retryDelay.mapM OperationError.interval
  return .patchQueue ns queue rename ttl retries retryDelay (patch.ttl ≠ .keep)

/-- Applies a patch to a queue, and returns the queue if there is one. -/
def patchQueue (m : Manager) (queue : String) (patch : QueuePatch) : Action (Option Queue) := do
  let command ← Operation.ofExcept (patchCommand m.ns queue patch)
  Action.ofQuery (Query.fetchOptional ⟨m.schema, command⟩ Queue.ofRow)

def registerCleanupTicker (m : Manager) (queue : Queue) : Action Unit := do
  let name := CleanupTicker.name queue.ns queue.queue
  let _ ← Action.ofQuery (TickerTable.insert m.schema cleanupNamespace name)
  let interval ← patchInterval (some (queue.ttl.getD defaultCleanupInterval))
  let _ ← Action.ofQuery (TickerTable.patch m.schema cleanupNamespace name interval)

/-- Deletes the cleanup ticker of a queue of the namespace. -/
def deleteCleanupTicker (m : Manager) (queue : String) : Action Unit := do
  let name := CleanupTicker.name m.ns queue
  let _ ← Action.ofQuery (TickerTable.delete m.schema cleanupNamespace name)

/-- Creates a queue, or changes the attributes that are given. -/
def registerQueue (m : Manager) (patch : QueuePatch) : Action Queue := do
  let name ← Action.unreservedName "queue" patch.queue
  let patch := { patch with queue := "" }
  Action.transaction do
    let _ ← Action.ofQuery (QueueTable.insert m.schema m.ns name)
    let queue ←
      if patch.isEmpty then Action.ofQuery (QueueTable.find m.schema m.ns name)
      else m.patchQueue name patch
    let queue ← Operation.orFail (.notFound (queueThing name)) queue
    m.registerCleanupTicker queue
    return .keep queue

def getQueue (m : Manager) (name : String) : Action Queue := do
  let name ← Action.name "queue" name
  Action.found (queueThing name) (QueueTable.find m.schema m.ns name)

def listQueues (m : Manager) (page : Page) : Action (Listing Queue) :=
  Action.transaction do
    let count ← Action.ofQuery (QueueTable.count m.schema m.ns)
    let body ← Action.ofQuery (QueueTable.list m.schema m.ns page)
    return .keep { count := Listing.countOf count, body }

/-- The new name that a patch gives, empty when it gives none. -/
def renameOf (patch : QueuePatch) : Action String :=
  if (Text.trim patch.queue.toList).isEmpty then pure ""
  else Action.unreservedName "queue" patch.queue

def updateQueue (m : Manager) (name : String) (patch : QueuePatch) : Action Queue := do
  let name ← Action.name "queue" name
  let rename ← renameOf patch
  if patch.isEmpty && rename.isEmpty then
    throw (.badRequest s!"Nothing to update on queue {name}")
  Action.transaction do
    let queue ← m.patchQueue name { patch with queue := rename }
    let queue ← Operation.orFail (.notFound (queueThing name)) queue
    if queue.queue ≠ name then
      m.deleteCleanupTicker name
    m.registerCleanupTicker queue
    return .keep queue

def deleteQueue (m : Manager) (name : String) : Action Queue := do
  let name ← Action.name "queue" name
  Action.transaction do
    let queue ← Action.found (queueThing name) (QueueTable.delete m.schema m.ns name)
    m.deleteCleanupTicker name
    return .keep queue

/-- The number of tasks by status, of one queue or of all. -/
def queueStatus (m : Manager) (queue : Option String) : Action (List QueueCount) := do
  let queue ← Action.optionalName "queue" queue
  Action.ofQuery (QueueTable.status m.schema m.ns queue)

/-- Deletes a batch of the tasks of a queue that are over, and returns them. -/
def cleanQueue (m : Manager) (queue : String) : Action (List Task) := do
  let queue ← Action.name "queue" queue
  Action.ofQuery (TaskTable.clean m.schema m.ns queue)

end TaskQueue.Manager
