import TaskQueue.Manager.Tasks
import TaskQueue.TaskLoop.Basic

/-!
# Turns of the task loop

A turn is the dialogue that leads to the next move of the loop; most moves need no dialogue.
-/

namespace TaskQueue.TaskLoop

/-- Asks for the announcements of the tasks of a namespace. -/
def listen (m : Manager) : Dialogue (Except OperationError Unit) := do
  match ← Dialogue.request (.listen (insertChannel m.ns)) with
  | .failed code message => return .error (.ofDatabase (.refused code message))
  | _ => return .ok ()

/-- The turn that asks the stream for its next signal: it makes the connection again if it was
lost. -/
def pull (m : Manager) (reconnects : Bool) : Dialogue Move := do
  if reconnects then
    return .pull (← listen m).isOk
  return .pull true

/-- The next turn of the loop of a manager, if it is not waiting for anything. -/
def turn? (m : Manager) (now : Instant) (cancelled : Bool) (l : TaskLoop) :
    Option (Dialogue Move) :=
  match l.phase with
  | .subscribing => some (Move.subscribed <$> listen m)
  | .waiting =>
    match l.stream.pull? now cancelled true with
    | none => none
    | some (.reconnected, _) => some (pull m true)
    | some _ => some (pull m false)
  | .claiming => some (Move.claimed <$> m.retainTask.run)
  | .holding _ =>
    if l.mustGiveBack cancelled then some (.done .giveBack)
    else if l.channel.hasRoom then some (.done .deliver)
    else none
  | .returning id => some (Move.returned <$> (m.returnTask id).run)
  | .ended _ => none

end TaskQueue.TaskLoop
