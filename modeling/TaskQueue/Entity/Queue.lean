import TaskQueue.Time.Span

/-!
# Queues

A queue belongs to a namespace, and says how long its tasks live and how often and after which
delay a failed task is tried again. A patch names the attributes of a queue that are to change.
-/

namespace TaskQueue

/-- A queue. Without a time to live its tasks never expire. -/
structure Queue where
  ns : String
  queue : String
  ttl : Option Span
  retries : Int32
  retryDelay : Span
deriving DecidableEq, Repr, Inhabited

inductive TtlPatch where
  | keep
  | remove
  | set (ttl : Span)
deriving DecidableEq, Repr, Inhabited

/-- The attributes of a queue to change; in an update, the name that is not empty renames it. -/
structure QueuePatch where
  queue : String
  ttl : TtlPatch := .keep
  retries : Option UInt32 := none
  retryDelay : Option Span := none
deriving DecidableEq, Repr, Inhabited

namespace QueuePatch

def isEmpty (patch : QueuePatch) : Bool :=
  patch.ttl = .keep && patch.retries.isNone && patch.retryDelay.isNone

end QueuePatch

end TaskQueue
