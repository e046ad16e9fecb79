import TaskQueue.Database.Dialogue

/-!
# Queries

A query sends one statement and reads the rows of the reply. Columns are looked up by name, or by
place where a row has only one. A reader asks for its columns in a fixed order, so of two bad
columns the one it asks for first is reported.
-/

namespace TaskQueue

abbrev Query (α : Type) := Operation DatabaseError α

abbrev RowReader (α : Type) := Row → Except DatabaseError α

namespace Row

def optional {α : Type} (row : Row) (column : String) (read : Datum → Option α) :
    Except DatabaseError (Option α) :=
  match row.lookup column with
  | none => .error (.columnNotFound column)
  | some .null => .ok none
  | some datum =>
    match read datum with
    | some a => .ok (some a)
    | none => .error (.wrongType (Text.quote column))

def required {α : Type} (row : Row) (column : String) (read : Datum → Option α) :
    Except DatabaseError α := do
  match ← row.optional column read with
  | some a => return a
  | none => throw (.unexpectedNull (Text.quote column))

def firstOptional {α : Type} (read : Datum → Option α) : RowReader (Option α)
  | [] => .error (.columnNotFound "0")
  | (_, .null) :: _ => .ok none
  | (_, datum) :: _ =>
    match read datum with
    | some a => .ok (some a)
    | none => .error (.wrongType "0")

/-- The value of the first column, which must not be null. -/
def first {α : Type} (read : Datum → Option α) : RowReader α := fun row => do
  match ← firstOptional read row with
  | some a => return a
  | none => throw (.unexpectedNull "0")

end Row

namespace Query

def send (s : Statement) : Query Reply :=
  ExceptT.mk do
    match ← Dialogue.request (.run s) with
    | .failed code message => return .error (.refused code message)
    | reply => return .ok reply

def rows (s : Statement) : Query (List Row) := do
  match ← send s with
  | .rows rows => return rows
  | _ => return []

/-- Carries out a statement whose rows are of no interest. Whether it changed anything. -/
def execute (s : Statement) : Query Bool := do
  match ← send s with
  | .affected count => return 0 < count
  | _ => return false

def fetchAll {α : Type} (s : Statement) (read : RowReader α) : Query (List α) := do
  let rows ← rows s
  Operation.ofExcept (rows.mapM read)

def fetchOptional {α : Type} (s : Statement) (read : RowReader α) : Query (Option α) := do
  match ← rows s with
  | [] => return none
  | row :: _ => some <$> Operation.ofExcept (read row)

def fetchOne {α : Type} (s : Statement) (read : RowReader α) : Query α := do
  match ← rows s with
  | [] => throw .rowNotFound
  | row :: _ => Operation.ofExcept (read row)

end Query

end TaskQueue
