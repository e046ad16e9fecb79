import TaskQueue.Migration.Error
import TaskQueue.Migration.Script
import TaskQueue.Database.Query
import TaskQueue.Time.Printer

/-!
# Migrations

The schema of a database is built by migrations, each with a number. Bringing a database up to date
runs the migrations it does not have yet, in one transaction, under a lock, and records each.
-/

namespace TaskQueue

/-- A migration. A breaking one cannot be worked with by a library that does not know it. -/
structure Migration where
  number : UInt32
  breaking : Bool
  scripts : List (List String)

namespace Migration

def name (m : Migration) : String :=
  String.ofList ('m' :: Timestamp.padded 6 m.number.toNat)

def tables : Migration where
  number := 1
  breaking := false
  scripts := [createQueueTable, createTaskTable, createQueueIndex, createUnstartedIndex,
    createTickerTable, createStatusType]

def functions : Migration where
  number := 2
  breaking := false
  scripts := [createTaskStatus, createQueueInsert, createQueueNotify, createInsertTrigger,
    createQueueLock, createQueueUnlock, createQueueBackoff, createQueueFail, createQueueReturn,
    createQueueClean, createTickerNext, createQueueStatus]

def all : List Migration := [tables, functions]

def highest : UInt32 := all.foldl (fun n m => max n m.number) 0

/-- A text with every occurrence of a pattern replaced, from left to right. The first `skip`
characters belong to an occurrence that was replaced already. -/
def replaceFrom (pattern value : List Char) : Nat → List Char → List Char
  | _, [] => []
  | skip + 1, _ :: cs => replaceFrom pattern value skip cs
  | 0, c :: cs =>
    if pattern.isPrefixOf (c :: cs) then
      value ++ replaceFrom pattern value (pattern.length - 1) cs
    else
      c :: replaceFrom pattern value 0 cs

/-- A statement for a schema: its lines, with the name of the schema in place. -/
def statement (schema : String) (script : List String) : String :=
  let text := "\n".intercalate script ++ "\n"
  String.ofList (replaceFrom placeholder.toList schema.toList 0 text.toList)

def statements (m : Migration) (schema : String) : List String :=
  m.scripts.map (statement schema)

/-- What a database tells of the migrations it has: the last one, and the last breaking one. -/
structure Progress where
  id : Option Int32
  breakingId : Option Int32
deriving Repr, DecidableEq

namespace Progress

def ofRow : RowReader Progress := fun row => do
  let id ← row.optional "id" Datum.int32?
  let breakingId ← row.optional "biggest_breaking_id" Datum.int32?
  return { id, breakingId }

/-- Whether a migration is still to be run. A last migration that is negative counts as none. -/
def isBefore (p : Progress) (m : Migration) : Bool :=
  match p.id with
  | some id => if id < 0 then 0 < m.number else id.toInt < (m.number.toNat : Int)
  | none => 0 < m.number

/-- The failure of a database that has a breaking migration beyond the last one known. A negative
number counts as one beyond all. -/
def incompatibility? (p : Progress) : Option MigrationError :=
  match p.breakingId with
  | some breaking =>
    if breaking < 0 || (highest.toNat : Int) < breaking.toInt then
      some (.incompatibleRevision (p.id.getD 0) breaking highest)
    else none
  | none => none

end Progress

abbrev Step (α : Type) := Operation MigrationError α

def ofQuery {α : Type} (q : Query α) : Step α :=
  q.mapError .database

def execute (schema : String) (command : Command) : Step Unit := do
  let _ ← ofQuery (Query.execute ⟨schema, command⟩)

def apply (schema : String) (m : Migration) : Step Unit := do
  (m.statements schema).forM fun text => execute schema (.script text)
  execute schema (.recordMigration (Int32.ofNat m.number.toNat) m.breaking)

def checkServer (schema : String) : Step Nat := do
  let text ← ofQuery (Query.fetchOne ⟨schema, .serverVersion⟩
    fun row => row.required "server_version_num" Datum.text?)
  Operation.ofExcept (ServerVersion.check text)

def migrate (schema : String) : Step Unit :=
  Operation.transaction .database do
    execute schema .lockMigrations
    let _ ← checkServer schema
    execute schema .createSchema
    execute schema .createMigrations
    let progress ← ofQuery (Query.fetchOne ⟨schema, .lastMigration⟩ Progress.ofRow)
    (all.filter progress.isBefore).forM (apply schema)
    if let some e := progress.incompatibility? then throw e
    return .keep ()

end Migration

end TaskQueue
