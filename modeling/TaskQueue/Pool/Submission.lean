import TaskQueue.Callback.Basic
import TaskQueue.Context
import TaskQueue.Json.Decode

/-!
# Submissions

What a caller hands to a pool: the work, whose name it is done in, what it is done for, and how long
it may take; and whom to tell what came of it.
-/

namespace TaskQueue

inductive Work where
  /-- A callback, with the payload it is called with. -/
  | callback (callback : Callback) (payload : Json)
  /-- A callback that cannot be run, since its payload does not decode. -/
  | undecodable (reason : String)
  /-- Work that is done elsewhere, and ends when that is done. -/
  | external
deriving Repr, Inhabited

/-- The work of a callback whose payload is to be decoded. -/
def Work.ofPayload (decode : Decoder Json) (payload : Json) (callback : Callback) : Work :=
  match decode payload with
  | .ok payload => .callback callback payload
  | .error e => .undecodable e.message

/-- How a call of a result callback ends. -/
inductive ReportEnd where
  | returned
  | panicked
deriving Repr, DecidableEq, Inhabited

structure Submission where
  worker : String
  subject : Subject
  limit : Option Span
  work : Work
  /-- How its result callback ends when it is called. -/
  onReport : ReportEnd := .returned
deriving Repr, Inhabited

namespace Submission

/-- A task is given the time it has left at a moment, if it expires and has some left. -/
def ofTask (worker : String) (task : Task) (now : Timestamp) (work : Work) : Submission :=
  { worker, subject := .task task, limit := (task.timeToLive now).bind Span.nonZero?, work }

def ofTicker (worker : String) (ticker : Ticker) (work : Work) : Submission :=
  { worker, subject := .ticker ticker, limit := ticker.interval.bind Span.nonZero?, work }

end Submission

end TaskQueue
