import TaskQueue.Entity.Task
import TaskQueue.Entity.Ticker
import TaskQueue.Time.Instant

/-!
# Contexts of callbacks

A callback is handed a context: the worker that runs it, what it is run for, and the instant at
which its time is up. Whether it should stop is told by a cancellation that it shares with whoever
started it; reaching the deadline alone does not cancel it.
-/

namespace TaskQueue

inductive Subject where
  | task (task : Task)
  | ticker (ticker : Ticker)
deriving Repr, Inhabited

namespace Subject

def task? : Subject → Option Task
  | task t => some t
  | ticker _ => none

def ticker? : Subject → Option Ticker
  | task _ => none
  | ticker t => some t

end Subject

structure Context where
  worker : String
  subject : Subject
  deadline : Option Instant
deriving Repr, Inhabited

namespace Context

/-- A context made at an instant, with a time limit. There is none if the limit lies beyond the
clock. -/
def make? (worker : String) (subject : Subject) (now : Instant) : Option Span → Option Context
  | none => some ⟨worker, subject, none⟩
  | some limit => (Instant.after? now limit).map fun deadline => ⟨worker, subject, some deadline⟩

/-- The time that is left at an instant, if there is a deadline. -/
def remaining (c : Context) (now : Instant) : Option Span :=
  c.deadline.map (Instant.spanTo now)

/-! ## Watching a context -/

inductive Event where
  | passed (millis : Nat)
  | cancelled
deriving Repr

structure Sight where
  remaining : Option Span
  isCancelled : Bool
deriving Repr

/-- What is seen of a context after each of the events that follow an instant. -/
def watch (c : Context) (now : Instant) (isCancelled : Bool) : List Event → List Sight
  | [] => []
  | .passed millis :: events =>
    let now := now + Instant.ofMillis millis
    ⟨c.remaining now, isCancelled⟩ :: watch c now isCancelled events
  | .cancelled :: events => ⟨c.remaining now, true⟩ :: watch c now true events

end Context

end TaskQueue
