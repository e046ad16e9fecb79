import TaskQueue.Json.Basic
import TaskQueue.Time.Interval
import TaskQueue.Time.Timestamp

/-!
# Values of the database

The values that statements take as arguments and that rows hold.
-/

namespace TaskQueue

inductive Datum where
  | null
  | text (s : String)
  | int (i : Int)
  | bool (b : Bool)
  | json (j : Json)
  | interval (i : Interval)
  | timestamp (t : Timestamp)
deriving Repr, Inhabited

namespace Datum

def ofOption {α : Type} (encode : α → Datum) : Option α → Datum
  | some a => encode a
  | none => null

def text? : Datum → Option String
  | text s => some s
  | _ => none

def int32? : Datum → Option Int32
  | int i => some (Int32.ofInt i)
  | _ => none

def int64? : Datum → Option Int64
  | int i => some (Int64.ofInt i)
  | _ => none

def json? : Datum → Option Json
  | json j => some j
  | _ => none

def interval? : Datum → Option Interval
  | interval i => some i
  | _ => none

/-- The timestamp of a value that is one. The database keeps it to the microsecond. -/
def timestamp? : Datum → Option Timestamp
  | timestamp t => some t.truncateToMicros
  | _ => none

end Datum

end TaskQueue
