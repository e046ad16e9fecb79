import TaskQueue.Entity.Page
import TaskQueue.Entity.Queue
import TaskQueue.Entity.Ticker
import TaskQueue.Json.Decode
import TaskQueue.Time.Printer
import TaskQueue.Time.Reader

/-!
# The JSON form of entities

Every entity is written as the object of all its fields, null standing for what is absent, and is
read back from that object or from the array of its fields. A patch that removes the time to live
of a queue is written like one that keeps it.
-/

namespace TaskQueue

namespace Span

def toJson (d : Span) : Json :=
  .ofFields [("secs", .int d.secs), ("nanos", .int d.subsecNanos)]

def parts : Decoder.Fields (Nat × Nat) :=
  (Decoder.Fields.nothing Prod.mk).field "secs" (.unsigned 64) |>.field "nanos" (.unsigned 32)

/-- The span with the given parts. Nanoseconds beyond a second count as seconds. -/
def ofDecodedParts (parts : Nat × Nat) : Except DecodeError Span :=
  (ofParts? parts.1 parts.2).elim (.error .spanOverflow) .ok

/-- Reads a span from its parts; an object may have no other fields. -/
def decode : Decoder Span
  | .object entries => do
    entries.forM fun (name, j) =>
      match parts.checks.lookup name with
      | some check => check j
      | none => .error (.unknownField name ["secs", "nanos"])
    parts.ofObject entries >>= ofDecodedParts
  | .array items => parts.readArray "struct Duration" items >>= ofDecodedParts
  | j => Decoder.mismatch "struct Duration" j

end Span

namespace Timestamp

def toJson (t : Timestamp) : Json := .text t.render

def decode : Decoder Timestamp
  | .text s =>
    match parse? s with
    | some t => .ok t
    | none => .error .invalidTimestamp
  | j => Decoder.mismatch "an RFC 3339 formatted date and time string" j

end Timestamp

namespace Decoder

def int32 : Decoder Int32 := fun j => (signed 32 j).map Int32.ofInt

def int64 : Decoder Int64 := fun j => (signed 64 j).map Int64.ofInt

def uint32 : Decoder UInt32 := fun j => (unsigned 32 j).map UInt32.ofNat

def uint64 : Decoder UInt64 := fun j => (unsigned 64 j).map UInt64.ofNat

end Decoder

namespace TaskStatus

def toJson (s : TaskStatus) : Json := .text s.name

def decode : Decoder TaskStatus :=
  .choice (all.map fun s => (s.name, .unit s))

end TaskStatus

namespace Queue

def toJson (q : Queue) : Json :=
  .ofFields [
    ("ns", .text q.ns),
    ("queue", .text q.queue),
    ("ttl", .ofOption Span.toJson q.ttl),
    ("retries", .int q.retries.toInt),
    ("retry_delay", q.retryDelay.toJson)]

def decode : Decoder Queue :=
  .record "Queue" <|
    (Decoder.Fields.nothing Queue.mk).field "ns" .text
    |>.field "queue" .text
    |>.optionalField "ttl" Span.decode
    |>.field "retries" .int32
    |>.field "retry_delay" Span.decode

end Queue

namespace TtlPatch

def toJson : TtlPatch → Json
  | keep => .null
  | remove => .null
  | set ttl => ttl.toJson

/-- The patch that sets a time to live if one is given. -/
def ofOption : Option Span → TtlPatch
  | some ttl => set ttl
  | none => keep

end TtlPatch

namespace QueuePatch

def toJson (p : QueuePatch) : Json :=
  .ofFields [
    ("queue", .text p.queue),
    ("ttl", p.ttl.toJson),
    ("retries", .ofOption (fun n => .int n.toNat) p.retries),
    ("retry_delay", .ofOption Span.toJson p.retryDelay)]

def decode : Decoder QueuePatch :=
  .record "QueueMeta" <|
    (Decoder.Fields.nothing fun queue ttl retries retryDelay =>
      QueuePatch.mk queue (.ofOption ttl) retries retryDelay).field "queue" .text
    |>.optionalField "ttl" Span.decode
    |>.optionalField "retries" .uint32
    |>.optionalField "retry_delay" Span.decode

end QueuePatch

namespace Task

def toJson (t : Task) : Json :=
  .ofFields [
    ("id", .int t.id.toInt),
    ("ns", .text t.ns),
    ("queue", .text t.queue),
    ("payload", t.payload),
    ("result", t.result),
    ("worker", .ofOption .text t.worker),
    ("created_at", t.createdAt.toJson),
    ("delayed_at", .ofOption Timestamp.toJson t.delayedAt),
    ("started_at", .ofOption Timestamp.toJson t.startedAt),
    ("finished_at", .ofOption Timestamp.toJson t.finishedAt),
    ("dies_at", .ofOption Timestamp.toJson t.diesAt),
    ("retries", .int t.retries.toInt),
    ("initial_retries", .int t.initialRetries.toInt),
    ("status", t.status.toJson)]

def decode : Decoder Task :=
  .record "Task" <|
    (Decoder.Fields.nothing Task.mk).field "id" .int64
    |>.field "ns" .text
    |>.field "queue" .text
    |>.field "payload" .any
    |>.field "result" .any
    |>.optionalField "worker" .text
    |>.field "created_at" Timestamp.decode
    |>.optionalField "delayed_at" Timestamp.decode
    |>.optionalField "started_at" Timestamp.decode
    |>.optionalField "finished_at" Timestamp.decode
    |>.optionalField "dies_at" Timestamp.decode
    |>.field "retries" .int32
    |>.field "initial_retries" .int32
    |>.field "status" TaskStatus.decode

end Task

namespace TaskDraft

def toJson (d : TaskDraft) : Json :=
  .ofFields [("payload", d.payload), ("delayed_at", .ofOption Timestamp.toJson d.delayedAt)]

def decode : Decoder TaskDraft :=
  .record "TaskMeta" <|
    (Decoder.Fields.nothing TaskDraft.mk).field "payload" .any
    |>.optionalField "delayed_at" Timestamp.decode

end TaskDraft

namespace QueueCount

def toJson (c : QueueCount) : Json :=
  .ofFields [("queue", .text c.queue), ("status", c.status.toJson), ("count", .int c.count.toInt)]

def decode : Decoder QueueCount :=
  .record "QueueStatus" <|
    (Decoder.Fields.nothing QueueCount.mk).field "queue" .text
    |>.field "status" TaskStatus.decode
    |>.field "count" .int64

end QueueCount

namespace Ticker

def toJson (t : Ticker) : Json :=
  .ofFields [
    ("ns", .text t.ns),
    ("ticker", .text t.ticker),
    ("interval", .ofOption Span.toJson t.interval),
    ("ts", .ofOption Timestamp.toJson t.ts)]

def decode : Decoder Ticker :=
  .record "Ticker" <|
    (Decoder.Fields.nothing Ticker.mk).field "ns" .text
    |>.field "ticker" .text
    |>.optionalField "interval" Span.decode
    |>.optionalField "ts" Timestamp.decode

end Ticker

namespace TickerPatch

def toJson (p : TickerPatch) : Json :=
  .ofFields [("ticker", .text p.ticker), ("interval", .ofOption Span.toJson p.interval)]

def decode : Decoder TickerPatch :=
  .record "TickerMeta" <|
    (Decoder.Fields.nothing TickerPatch.mk).field "ticker" .text
    |>.optionalField "interval" Span.decode

end TickerPatch

namespace Page

def fields : Decoder.Fields Page :=
  (Decoder.Fields.nothing Page.mk).field "offset" .uint64 |>.field "limit" .uint64

def toJson (p : Page) : Json :=
  .ofFields [("offset", .int p.offset.toNat), ("limit", .int p.limit.toNat)]

def decode : Decoder Page :=
  .record "ListRequest" fields

end Page

namespace TaskPage

/-- The JSON form of a page of tasks, which keeps the page's fields beside the status. -/
def toJson (p : TaskPage) : Json :=
  .ofFields [
    ("offset", .int p.page.offset.toNat),
    ("limit", .int p.page.limit.toNat),
    ("status", .ofOption TaskStatus.toJson p.status)]

def decode : Decoder TaskPage :=
  .recordAround "TaskListRequest" Page.fields <|
    (Decoder.Fields.nothing fun status page => TaskPage.mk page status).optionalField "status"
      TaskStatus.decode

end TaskPage

namespace Listing

def toJson {α : Type} (encode : α → Json) (l : Listing α) : Json :=
  .ofFields [("count", .int l.count.toNat), ("body", .ofList encode l.body)]

def decode {α : Type} (item : Decoder α) : Decoder (Listing α) :=
  .record "List" <|
    (Decoder.Fields.nothing Listing.mk).field "count" .uint64 |>.field "body" (.list item)

end Listing

end TaskQueue
