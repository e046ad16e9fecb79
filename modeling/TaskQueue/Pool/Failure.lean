import TaskQueue.Time.Span

/-!
# Failures of callbacks

A run of a callback can fail for more than one reason: a callback that is late fails for being late
even if it then returns, and for its own failure as well if it has one. A pool that does not take a
callback refuses it.
-/

namespace TaskQueue

inductive Failure where
  | panic (text : String)
  | callback (text : String)
  | deadlineExceeded (limit : Span)
  | invalidPayload (reason : String)
  | aborted
deriving Repr, DecidableEq

namespace Failure

def message : Failure → String
  | panic text => s!"PANIC: {text}"
  | callback text => text
  | deadlineExceeded limit => s!"Deadline of {limit.render} exceeded"
  | invalidPayload reason => s!"Invalid payload: {reason}"
  | aborted => "Task aborted"

def isPanic : Failure → Bool
  | panic _ => true
  | _ => false

def isCallback : Failure → Bool
  | callback _ => true
  | _ => false

def isDeadlineExceeded : Failure → Bool
  | deadlineExceeded _ => true
  | _ => false

end Failure

/-- What came of a run: the reasons why it failed, in order, none when it went well. -/
structure RunResult where
  failures : List Failure
deriving Repr, DecidableEq

namespace RunResult

def isOk (r : RunResult) : Bool := r.failures.isEmpty

/-- The wording of a run that failed: one line for each reason. -/
def message (r : RunResult) : String :=
  "\n".intercalate (r.failures.map Failure.message)

end RunResult

inductive Refusal where
  | closed
  | cancelled
deriving Repr, DecidableEq

namespace Refusal

def message : Refusal → String
  | closed => "Worker pool is closed"
  | cancelled => "Submission cancelled while waiting for a free worker"

end Refusal

end TaskQueue
