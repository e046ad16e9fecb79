import TaskQueue.TaskLoop.Turn
import TaskQueue.TickerLoop.Turn
import TaskQueue.Worker.Run

/-!
# Turns of a worker

A turn is the dialogue that leads to the next move of a run. What is at hand comes before what has
to be asked for: dispatchers and settlements go on before the loops.
-/

namespace TaskQueue.WorkerRun

/-- The next thing for a dispatcher to do, if it is not waiting. -/
def dispatchMove? (r : WorkerRun) (moment : Timestamp) (line : Line) : Option Move :=
  match r.dispatchers.get line with
  | .submitting i =>
    if (r.pool.jobs[i]?).any Job.isWaiting then none else some (.answered line)
  | .idle =>
    if !r.isEmptied line then some (.dispatch line moment)
    else if r.isFed line then none
    else some (.leave line)
  | .ended => none

def settleTurn? (w : Worker) (r : WorkerRun) : Option (Dialogue Move) :=
  r.settlements.head?.map fun s => Move.settled <$> (s.carryOut w.manager).run

def loopTurn? (w : Worker) (now : Instant) (r : WorkerRun) : Option (Dialogue Move) :=
  if r.result?.isSome then none
  else
    let turn {α : Type} (move : α → Move) (d : Option (Dialogue α)) := d.map (move <$> ·)
    turn .taskLoop (r.tasks.turn? w.manager now r.cancelled) <|>
      turn .tickerLoop (r.tickers.turn? w.manager now r.cancelled) <|>
      turn .cleanupLoop (r.cleanup.turn? w.manager.cleanup now r.cancelled)

/-- The next turn of a run at an instant and a moment, leaving aside what its pool does. -/
def turn? (w : Worker) (now : Instant) (moment : Timestamp) (r : WorkerRun) :
    Option (Dialogue Move) :=
  .done <$> Line.all.findSome? (r.dispatchMove? moment) <|> r.settleTurn? w <|>
    if r.isDispatched && !r.pool.closed then some (.done .close) else r.loopTurn? w now

end TaskQueue.WorkerRun
