import TaskQueue.Database.Error
import TaskQueue.Database.Query
import TaskQueue.Name
import TaskQueue.Time.Interval

/-!
# Failures of a manager's operations

An operation fails because something is not there, because it collides with something, because it
was asked for something it cannot do, or because the database fails. Some codes of the server
stand for the first three causes.
-/

namespace TaskQueue

inductive OperationError where
  | notFound (text : String)
  | conflict (text : String)
  | badRequest (text : String)
  | database (cause : DatabaseError)
deriving Repr, DecidableEq

namespace OperationError

/-- The code of the server for a value that exists already. -/
def uniqueViolation : String := "23505"

/-- The code of the server for a reference to something that is not there. -/
def foreignKeyViolation : String := "23503"

/-- The code of the server for a value that is not allowed. -/
def checkViolation : String := "23514"

/-- The cause that a failure of the database stands for. -/
def ofDatabase : DatabaseError → OperationError
  | .rowNotFound => notFound "No matching row"
  | .refused code message =>
    if code = uniqueViolation then conflict message
    else if code = foreignKeyViolation then notFound message
    else if code = checkViolation then badRequest message
    else database (.refused code message)
  | cause => database cause

def ofName (e : NameError) : OperationError :=
  badRequest e.message

def message : OperationError → String
  | notFound text => s!"Not found: {text}"
  | conflict text => s!"Conflict: {text}"
  | badRequest text => s!"Bad request: {text}"
  | database cause => s!"Error occured while query: {cause.message}"

def isNotFound : OperationError → Bool
  | notFound _ => true
  | _ => false

def isConflict : OperationError → Bool
  | conflict _ => true
  | _ => false

/-- Whether something was asked for that cannot be done. -/
def isBadRequest : OperationError → Bool
  | badRequest _ => true
  | _ => false

/-- The interval of a span, or the cause that it does not fit. -/
def interval (d : Span) : Except OperationError Interval :=
  match Interval.ofSpan? d with
  | some i => .ok i
  | none => .error (badRequest (Interval.tooLongMessage d))

end OperationError

abbrev Action (α : Type) := Operation OperationError α

namespace Action

def ofQuery {α : Type} (q : Query α) : Action α :=
  q.mapError .ofDatabase

def transaction {α : Type} (body : Action (Operation.Verdict α)) : Action α :=
  Operation.transaction .ofDatabase body

/-- The identifier that a text names, as part of an action. -/
def name (kind name : String) : Action String :=
  (Operation.ofExcept (Name.normalize kind name)).mapError .ofName

/-- The identifier that a text names, unless it is reserved. -/
def unreservedName (kind name : String) : Action String :=
  (Operation.ofExcept (Name.validate kind name)).mapError .ofName

/-- The identifier that a text names, if there is a text. -/
def optionalName (kind : String) : Option String → Action (Option String)
  | some n => some <$> name kind n
  | none => pure none

/-- What a query finds, or the failure that a thing is not there. -/
def found {α : Type} (thing : String) (q : Query (Option α)) : Action α := do
  Operation.orFail (.notFound thing) (← ofQuery q)

end Action

end TaskQueue
