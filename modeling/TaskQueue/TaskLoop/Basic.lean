import TaskQueue.Channel
import TaskQueue.Entity.Task
import TaskQueue.Manager.Error
import TaskQueue.Signal.Stream

/-!
# The loop that looks for tasks

The loop waits for a signal, and then claims tasks and puts them in a channel until there is no
task left to claim. A claimed task that cannot be put in the channel any more is given back. The
loop ends when it is cancelled, when nobody receives its tasks, or when it cannot claim.

The moves of the loop say what it does and what it learns from the database; how long an answer
takes, and what happens in the meantime, is left open.
-/

namespace TaskQueue

namespace TaskLoop

inductive Phase where
  /-- It asks for the announcements of new tasks. -/
  | subscribing
  | waiting
  | claiming
  /-- It waits for room in the channel for a task that it claimed. -/
  | holding (task : Task)
  | returning (id : Int64)
  | ended (result : Except OperationError Unit)

inductive Move where
  | subscribed (result : Except OperationError Unit)
  /-- It asks its stream for the next signal; whether the server can be reached. -/
  | pull (reachable : Bool)
  | claimed (result : Except OperationError (Option Task))
  | deliver
  | giveBack
  | returned (result : Except OperationError Task)

end TaskLoop

/-- The loop, with the stream that wakes it and the channel it fills. -/
structure TaskLoop where
  phase : TaskLoop.Phase := .subscribing
  stream : SignalStream
  channel : Channel Task

namespace TaskLoop

/-- The loop that begins at an instant, with a channel to fill. -/
def start (period : Span) (channel : Channel Task) (now : Instant) : Except Fault TaskLoop := do
  return { stream := ← SignalStream.start period now, channel }

def idle (period : Span) (channel : Channel Task) (now : Instant) : TaskLoop :=
  { phase := .ended (.ok ()), stream := { timer := ⟨period, now⟩ }, channel }

def result? (l : TaskLoop) : Option (Except OperationError Unit) :=
  match l.phase with
  | .ended result => some result
  | _ => none

/-- Whether a task that is held cannot be delivered any more. -/
def mustGiveBack (l : TaskLoop) (cancelled : Bool) : Bool :=
  cancelled || !l.channel.attached

def afterClaim : Except OperationError (Option Task) → Phase
  | .ok (some task) => .holding task
  | .ok none => .waiting
  | .error e => .ended (.error e)

/-- The state after a move at an instant, if the move can be made. A held task is delivered only
while the loop is not cancelled; a failure to give it back is nobody's failure. -/
def step? (now : Instant) (cancelled : Bool) (m : Move) (l : TaskLoop) : Option TaskLoop :=
  match m, l.phase with
  | .subscribed (.ok _), .subscribing => some { l with phase := .waiting }
  | .subscribed (.error e), .subscribing => some { l with phase := .ended (.error e) }
  | .pull reachable, .waiting =>
    (l.stream.pull? now cancelled reachable).map fun (pull, stream) =>
      match pull with
      | .signal _ => { l with stream, phase := .claiming }
      | .ended => { l with stream, phase := .ended (.ok ()) }
      | .reconnected | .wentBlind => { l with stream }
  | .claimed result, .claiming => some { l with phase := afterClaim result }
  | .deliver, .holding task =>
    if !l.mustGiveBack cancelled && l.channel.hasRoom then
      some { l with phase := .claiming, channel := l.channel.push task }
    else none
  | .giveBack, .holding task =>
    if l.mustGiveBack cancelled then some { l with phase := .returning task.id } else none
  | .returned _, .returning _ => some { l with phase := .ended (.ok ()) }
  | _, _ => none

def notify (l : TaskLoop) (queue : String) : TaskLoop :=
  { l with stream := l.stream.notify queue }

def receive? (l : TaskLoop) : Option (Task × TaskLoop) :=
  l.channel.take?.map fun (task, channel) => (task, { l with channel })

def detach (l : TaskLoop) : TaskLoop :=
  { l with channel := l.channel.detach }

end TaskLoop

end TaskQueue
