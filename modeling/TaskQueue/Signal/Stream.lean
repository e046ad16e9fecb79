import TaskQueue.Fault
import TaskQueue.Time.Instant

/-!
# Signals

A loop that looks for tasks is woken by signals: whenever a task is announced, and at regular
intervals in any case. Announcements come over a connection that keeps them in order until they are
read. When the connection is lost it is made again; when that fails the stream is blind until its
next poll, to announcements and to its cancellation.
-/

namespace TaskQueue

inductive Signal where
  /-- The time between polls is over. -/
  | polling
  | notification (queue : String)
deriving Repr, DecidableEq

/-- A timer that ticks at regular intervals: the interval, and the instant of its next tick. -/
structure Ticking where
  period : Span
  due : Instant
deriving Repr

namespace Ticking

def start (period : Span) (due : Instant) : Except Fault Ticking :=
  if period = .zero then .error .noPeriod else .ok ⟨period, due⟩

/-- By how much a tick may be late for the one after it to be counted from when it was due. -/
def tolerance : Instant := Instant.ofMillis 5

/-- The timer after its tick is taken. A tick that is taken too late delays the ones after it. -/
def take (t : Ticking) (now : Instant) : Ticking :=
  { t with due := (if t.due + tolerance < now then now else t.due) + t.period.nanos }

end Ticking

inductive SignalMode where
  | listening
  /-- The connection could not be made again: only the next poll is waited for. -/
  | blind
  | ended
deriving Repr, DecidableEq

structure SignalStream where
  timer : Ticking
  mode : SignalMode := .listening
  connected : Bool := true
  /-- The queues of the announcements that were not read yet. -/
  inbox : List String := []
deriving Repr

/-- What a stream of signals does when it is asked for the next one. -/
inductive Pull where
  | signal (signal : Signal)
  | reconnected
  /-- The connection could not be made again. -/
  | wentBlind
  | ended
deriving Repr

namespace SignalStream

/-- A stream that begins at an instant; its first poll is due at once. -/
def start (period : Span) (now : Instant) : Except Fault SignalStream := do
  return { timer := ← Ticking.start period now }

/-- A task is announced. Nobody hears it while there is no connection. -/
def notify (s : SignalStream) (queue : String) : SignalStream :=
  if s.connected then { s with inbox := s.inbox ++ [queue] } else s

/-- The connection is lost. What it had received can still be read. -/
def disconnect (s : SignalStream) : SignalStream :=
  { s with connected := false }

def poll? (s : SignalStream) (now : Instant) : Option (Pull × SignalStream) :=
  if s.timer.due ≤ now then
    some (.signal .polling, { s with timer := s.timer.take now, mode := .listening })
  else none

/-- The next thing that a stream does at an instant, if it does anything: it ends once cancelled,
reads an announcement, makes its connection again, or polls. -/
def pull? (s : SignalStream) (now : Instant) (cancelled reachable : Bool) :
    Option (Pull × SignalStream) :=
  match s.mode with
  | .ended => none
  | .blind => s.poll? now
  | .listening =>
    if cancelled then some (.ended, { s with mode := .ended })
    else
      match s.inbox with
      | queue :: inbox => some (.signal (.notification queue), { s with inbox })
      | [] =>
        if s.connected then s.poll? now
        else if reachable then some (.reconnected, { s with connected := true })
        else some (.wentBlind, { s with mode := .blind })

end SignalStream

end TaskQueue
