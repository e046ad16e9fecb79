import TaskQueue.Proofs.Database.Conversation
import TaskQueue.Proofs.Manager.Interval
import TaskQueue.Manager.Tasks

/-!
# The calls of a manager that are transactions

Twelve operations group their statements into a transaction. What may go wrong in a call is told
without running it: from the arguments, before anything is said and again between two statements,
and from each exchange, by the reply and by what the call reports as missing.
-/

namespace TaskQueue

variable {α ε : Type}

def causeOf? : Except ε α → Option ε
  | .ok _ => none
  | .error e => some e

/-- Whether the reply to a command has a row, or an identifier, to answer with; or why it cannot be
read. Replies to commands that answer nothing, or as many rows as there are, always have. -/
def Command.answer (command : Command) (reply : Reply) : Except DatabaseError Bool :=
  match command with
  | findQueue .. | patchQueue .. | deleteQueue .. =>
    (reply.optional Queue.ofRow).map Option.isSome
  | listQueues .. => (reply.all Queue.ofRow).map fun _ => true
  | queueStatus .. => (reply.all QueueCount.ofRow).map fun _ => true
  | findTask .. => (reply.optional Task.ofRow).map Option.isSome
  | listTasks .. | cleanQueue .. => (reply.all Task.ofRow).map fun _ => true
  | insertTask .. | lockTask .. | unlockTask .. | failTask .. | returnTask .. =>
    (reply.one (Row.firstOptional Datum.int64?)).map Option.isSome
  | findTicker .. | patchTicker .. | deleteTicker .. | nextTicker .. =>
    (reply.optional Ticker.ofRow).map Option.isSome
  | listTickers .. => (reply.all Ticker.ofRow).map fun _ => true
  | countQueues .. | countTasks .. | countTickers .. =>
    (reply.one (Row.first Datum.int64?)).map fun _ => true
  | _ => reply.changed.map fun _ => true

namespace Exchange

/-- The failure that an exchange is, where `missing` names what a command reports as missing when
its answer is absent. The reply to a rollback is not looked at. -/
def failure? (missing : Command → Option String) (e : Exchange) : Option OperationError :=
  match e.request with
  | .run s =>
    match s.command.answer e.reply with
    | .error cause => some (.ofDatabase cause)
    | .ok true => none
    | .ok false => (missing s.command).map .notFound
  | .begin | .commit =>
    match e.reply with
    | .failed code message => some (.ofDatabase (.refused code message))
    | _ => none
  | .rollback | .listen _ => none

def IsStatement (e : Exchange) : Prop := ∃ s, e.request = .run s

def Commits (e : Exchange) : Prop := e.request = .commit ∧ e.reply.isFailed = false

/-- The exchange changes attributes that were given as arguments. -/
def Patches (e : Exchange) : Prop :=
  (∃ schema ns queue rename ttl retries retryDelay setTtl,
    e.request = .run ⟨schema, .patchQueue ns queue rename ttl retries retryDelay setTtl⟩) ∨
  ∃ schema ns ticker interval, e.request = .run ⟨schema, .patchTicker ns ticker interval⟩

/-- The exchange is a claim of a task to which the answer is that there is none. -/
def ClaimsNothing (e : Exchange) : Prop :=
  ∃ schema ns worker, e.request = .run ⟨schema, .lockTask ns worker⟩ ∧
    e.reply.one (Row.firstOptional Datum.int64?) = .ok none

theorem ClaimsNothing.isStatement {e : Exchange} (h : e.ClaimsNothing) :
    e.IsStatement :=
  let ⟨_, _, _, hrequest, _⟩ := h
  ⟨_, hrequest⟩

theorem Patches.isStatement {e : Exchange} (h : e.Patches) : e.IsStatement := by
  rcases h with ⟨_, _, _, _, _, _, _, _, h⟩ | ⟨_, _, _, _, h⟩ <;> exact ⟨_, h⟩

end Exchange

namespace QueuePatch

/-- The first attribute of a patch that the database cannot take. -/
def misfit? (patch : QueuePatch) : Option OperationError :=
  let ttl :=
    match patch.ttl with
    | .set d => causeOf? (OperationError.interval d)
    | .keep | .remove => none
  let retries := patch.retries.bind fun n => causeOf? (Manager.patchRetries n)
  let retryDelay := patch.retryDelay.bind fun d => causeOf? (OperationError.interval d)
  ttl.or (retries.or retryDelay)

end QueuePatch

namespace Manager

inductive Call : Type → Type
  | registerQueue (patch : QueuePatch) : Call Queue
  | listQueues (page : Page) : Call (Listing Queue)
  | updateQueue (name : String) (patch : QueuePatch) : Call Queue
  | deleteQueue (name : String) : Call Queue
  | createTask (queue : String) (draft : TaskDraft) : Call Task
  | retainTaskAs (worker : String) : Call (Option Task)
  | releaseTask (id : Int64) (result : Json) : Call Task
  | failTask (id : Int64) (result : Json) : Call Task
  | returnTask (id : Int64) : Call Task
  | listTasks (queue : Option String) (page : TaskPage) : Call (Listing Task)
  | registerTicker (patch : TickerPatch) : Call Ticker
  | listTickers (page : Page) : Call (Listing Ticker)

namespace Call

def run (m : Manager) (now : Timestamp) : Call α → Action α
  | registerQueue patch => m.registerQueue patch
  | listQueues page => m.listQueues page
  | updateQueue name patch => m.updateQueue name patch
  | deleteQueue name => m.deleteQueue name
  | createTask queue draft => m.createTask now queue draft
  | retainTaskAs worker => m.retainTaskAs worker
  | releaseTask id result => m.releaseTask id result
  | failTask id result => m.failTask id result
  | returnTask id => m.returnTask id
  | listTasks queue page => m.listTasks queue page
  | registerTicker patch => m.registerTicker patch
  | listTickers page => m.listTickers page

/-- Why a call is refused for its arguments, before anything is said. -/
def refusal? (now : Timestamp) : Call α → Option OperationError
  | registerQueue patch => (causeOf? (Name.validate "queue" patch.queue)).map .ofName
  | updateQueue name patch =>
    match Name.normalize "queue" name with
    | .error e => some (.ofName e)
    | .ok name =>
      if (Text.trim patch.queue.toList).isEmpty then
        if patch.isEmpty then some (.badRequest s!"Nothing to update on queue {name}") else none
      else (causeOf? (Name.validate "queue" patch.queue)).map .ofName
  | deleteQueue name => (causeOf? (Name.normalize "queue" name)).map .ofName
  | createTask queue draft =>
    ((causeOf? (Name.normalize "queue" queue)).map .ofName).or
      (draft.delayedAt.bind fun t =>
        if t.before now then
          some (.badRequest s!"Task delayed to {t.renderInMessage}, which is in the past")
        else none)
  | retainTaskAs worker =>
    if Text.isBlankText worker then some (.badRequest "Missing worker name") else none
  | listTasks queue _ =>
    queue.bind fun queue => (causeOf? (Name.normalize "queue" queue)).map .ofName
  | registerTicker patch => (causeOf? (Name.normalize "ticker" patch.ticker)).map .ofName
  | listQueues _ | releaseTask .. | failTask .. | returnTask _ | listTickers _ => none

/-- The argument of a call that the database cannot take, which is met inside the transaction. -/
def misfit? : Call α → Option OperationError
  | registerQueue patch => patch.misfit?
  | updateQueue _ patch => patch.misfit?
  | registerTicker patch => patch.interval.bind fun d => causeOf? (OperationError.interval d)
  | _ => none

/-- What a call reports as missing when the answer to a command is absent. -/
def missing? : Call α → Command → Option String
  | registerQueue _, .findQueue _ queue => some (queueThing queue)
  | registerQueue _, .patchQueue _ queue .. => some (queueThing queue)
  | updateQueue .., .patchQueue _ queue .. => some (queueThing queue)
  | deleteQueue _, .deleteQueue _ queue => some (queueThing queue)
  | createTask .., .insertTask _ queue .. => some (queueThing queue)
  | releaseTask .., .unlockTask _ id _ => some (retainedThing id)
  | failTask .., .failTask _ id _ => some (retainedThing id)
  | returnTask _, .returnTask _ id _ => some (retainedThing id)
  | createTask .., .findTask _ id => some (taskThing id)
  | releaseTask .., .findTask _ id => some (taskThing id)
  | failTask .., .findTask _ id => some (taskThing id)
  | returnTask _, .findTask _ id => some (taskThing id)
  | registerTicker _, .patchTicker _ ticker _ => some (tickerThing ticker)
  | _, _ => none

/-- A claim that finds no task comes to nothing, and is the only call that may come to an end
without a failure and without a commit. -/
def Lapses : Call α → List Exchange → α → Prop
  | retainTaskAs _, log, a => a = none ∧ ∃ e ∈ log, e.ClaimsNothing
  | _, _, _ => False

end Call

end Manager

end TaskQueue
