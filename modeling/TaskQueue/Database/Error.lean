import TaskQueue.Text.Quoted

/-!
# Failures of the database

Why a statement could not be carried out, or its rows not be read.
-/

namespace TaskQueue

inductive DatabaseError where
  /-- The server refused the statement, with a code of five characters and a message. -/
  | refused (code message : String)
  | rowNotFound
  | columnNotFound (column : String)
  /-- A column held null where a value was needed; the column as it is shown. -/
  | unexpectedNull (column : String)
  /-- A column held a value of another type; the column as it is shown. -/
  | wrongType (column : String)
  | unknownStatus (column : String)
  | poolTimedOut
  | poolClosed
  | connectionCrashed
  | malformed (text : String)
  | invalidUrl (reason : String)
deriving Repr, DecidableEq

namespace DatabaseError

def message : DatabaseError → String
  | refused _ message => s!"error returned from database: {message}"
  | rowNotFound => "no rows returned by a query that expected to return at least one row"
  | columnNotFound column => s!"no column found for name: {column}"
  | unexpectedNull column =>
    s!"error occurred while decoding column {column}: unexpected null; try decoding as an `Option`"
  | wrongType column => s!"error occurred while decoding column {column}: mismatched types"
  | unknownStatus column =>
    s!"error occurred while decoding column {column}: unprintable error: (unprintable type)"
  | poolTimedOut => "pool timed out while waiting for an open connection"
  | poolClosed => "attempted to acquire a connection on a closed pool"
  | connectionCrashed => "attempted to communicate with a crashed background worker"
  | malformed text => s!"encountered unexpected or invalid data: {text}"
  | invalidUrl reason => s!"error with configuration: {reason}"

end DatabaseError

end TaskQueue
