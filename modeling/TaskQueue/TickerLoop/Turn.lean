import TaskQueue.Manager.Tickers
import TaskQueue.TickerLoop.Basic

/-!
# Turns of the ticker loop

A turn is the dialogue that leads to the next move of the loop; most moves need no dialogue.
-/

namespace TaskQueue.TickerLoop

/-- The next turn of the loop of a manager, if it is not waiting for anything. -/
def turn? (m : Manager) (now : Instant) (cancelled : Bool) (l : TickerLoop) :
    Option (Dialogue Move) :=
  match l.phase with
  | .sleeping wakes =>
    if cancelled then some (.done .stop) else if wakes ≤ now then some (.done .wake) else none
  | .asking => some (Move.answered <$> m.nextTicker.run)
  | .offering _ =>
    if l.channel.hasRoom then some (.done .deliver)
    else if l.mustAbandon cancelled then some (.done .abandon)
    else none
  | .ended _ => none
  | .overflowed => none

end TaskQueue.TickerLoop
