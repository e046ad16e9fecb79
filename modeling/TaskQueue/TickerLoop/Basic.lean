import TaskQueue.Channel
import TaskQueue.Entity.Ticker
import TaskQueue.Manager.Error
import TaskQueue.PollPeriod
import TaskQueue.Time.Instant

/-!
# The loop that polls tickers

The loop sleeps, asks for a ticker that is due, and offers the ticker to a channel. The period
between its polls adapts to the tickers that it delivers. The loop ends when it is cancelled, when
nobody receives its tickers, or when it cannot ask. A ticker that was claimed is still delivered
after the cancellation if there is room for it.
-/

namespace TaskQueue

namespace TickerLoop

inductive Phase where
  | sleeping (wakes : Instant)
  | asking
  /-- It waits for room in the channel for a ticker that it claimed. -/
  | offering (ticker : Ticker)
  | ended (result : Except OperationError Unit)
  /-- The instant to wake at lies beyond the clock. -/
  | overflowed

inductive Move where
  | wake
  /-- The loop is cancelled while it sleeps. -/
  | stop
  | answered (result : Except OperationError (Option Ticker))
  | deliver
  /-- The ticker that is offered is given up. -/
  | abandon

/-- The time before the first poll, to which a random part is added that is not longer. -/
def startDelay : Span := .ofMillis 100

end TickerLoop

/-- The loop: the period between its polls, the instant of its last delivery, and the channel it
fills. -/
structure TickerLoop where
  phase : TickerLoop.Phase
  period : Span
  previous : Instant
  channel : Channel Ticker

namespace TickerLoop

/-- The loop that begins at an instant, with a channel to fill. It first polls when the start delay
and its random part are over. -/
def start (period : Span) (channel : Channel Ticker) (now : Instant) (jitter : Span) :
    TickerLoop where
  phase := .sleeping (now + startDelay.nanos + jitter.nanos)
  period := period
  previous := now
  channel := channel

def result? (l : TickerLoop) : Option (Except OperationError Unit) :=
  match l.phase with
  | .ended result => some result
  | _ => none

def finish (l : TickerLoop) (result : Except OperationError Unit) : TickerLoop :=
  { l with phase := .ended result }

def rest (l : TickerLoop) (now : Instant) : TickerLoop :=
  match now.after? l.period with
  | some wakes => { l with phase := .sleeping wakes }
  | none => { l with phase := .overflowed }

/-- The loop with a ticker delivered: its period is adapted to the ticker and to the time since the
delivery before. -/
def adapt (l : TickerLoop) (now : Instant) (ticker : Ticker) : TickerLoop :=
  { l with
    period := PollPeriod.adjust l.period ticker.interval (l.previous.spanTo now)
    previous := now
    channel := l.channel.push ticker }

/-- Whether a ticker that is offered cannot be delivered any more. -/
def mustAbandon (l : TickerLoop) (cancelled : Bool) : Bool :=
  !l.channel.attached || cancelled && !l.channel.hasRoom

/-- The state after a move at an instant, if the move can be made. -/
def step? (now : Instant) (cancelled : Bool) (m : Move) (l : TickerLoop) : Option TickerLoop :=
  match m, l.phase with
  | .stop, .sleeping _ => if cancelled then some (l.finish (.ok ())) else none
  | .wake, .sleeping wakes =>
    if !cancelled && wakes ≤ now then some { l with phase := .asking } else none
  | .answered (.error e), .asking => some (l.finish (.error e))
  | .answered (.ok none), .asking => some (l.rest now)
  | .answered (.ok (some ticker)), .asking => some { l with phase := .offering ticker }
  | .deliver, .offering ticker =>
    if l.channel.hasRoom then some ((l.adapt now ticker).rest now) else none
  | .abandon, .offering _ => if l.mustAbandon cancelled then some (l.finish (.ok ())) else none
  | _, _ => none

/-- The receiver takes the first ticker of the channel. -/
def receive? (l : TickerLoop) : Option (Ticker × TickerLoop) :=
  l.channel.take?.map fun (ticker, channel) => (ticker, { l with channel })

def detach (l : TickerLoop) : TickerLoop :=
  { l with channel := l.channel.detach }

end TickerLoop

end TaskQueue
