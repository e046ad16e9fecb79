import TaskQueue.Manager.Basic
import TaskQueue.Migration.Basic
import TaskQueue.Text.Blank

/-!
# Setting up a manager

A manager is set up from options: where the database is, the schema, the namespace and the name of
the worker. Setting it up checks the options, asks the server to quote the schema, and brings the
schema up to date.
-/

namespace TaskQueue

def defaultSchema : String := "pgqueue"

inductive Source where
  /-- Connections that are there already. -/
  | connections
  | url (url : String)
  | missing
deriving Repr, DecidableEq

structure ManagerOptions where
  source : Source
  schema : Option String := none
  ns : Option String := none
  worker : Option String := none
deriving Repr

inductive SetupError where
  | connect (cause : DatabaseError)
  | query (cause : OperationError)
  | missingUrl
  | invalidOption (text : String)
  | migration (cause : MigrationError)
deriving Repr, DecidableEq

namespace SetupError

def message : SetupError → String
  | connect cause =>
    s!"Error occurred while connecting to the PostgreSQL database: {cause.message}"
  | query cause => s!"Error occurred while executing a query: {cause.message}"
  | missingUrl =>
    "Missing database_url configuration - must provide either database_url or pg_pool"
  | invalidOption text => s!"Invalid option: {text}"
  | migration cause => s!"Error occurred while migrating the database schema: {cause.message}"

end SetupError

namespace ManagerOptions

/-- The name of a worker that is not given one: a fixed start and 18 random hexadecimal digits. -/
def randomWorker (digits : String) : String :=
  "pgqueue_" ++ digits

def namespaceOf (o : ManagerOptions) : Except SetupError String :=
  match o.ns with
  | none => .ok defaultNamespace
  | some ns =>
    match Name.validate "namespace" ns with
    | .ok ns => .ok ns
    | .error e => .error (.invalidOption e.message)

/-- The worker that the options name, or one named by the given digits. -/
def workerOf (o : ManagerOptions) (digits : String) : Except SetupError String :=
  match o.worker with
  | none => .ok (randomWorker digits)
  | some worker =>
    if Text.isBlankText worker then .error (.invalidOption "worker name must not be empty")
    else .ok worker

/-- Whether a text starts like a URL, with the name of a scheme and a colon. -/
def hasScheme (url : String) : Bool :=
  match url.toList.dropWhile fun c => c.toNat ≤ 0x20 with
  | [] => false
  | c :: cs =>
    c.isAlpha && (cs.dropWhile fun c => c.isAlphanum || c ∈ ['+', '-', '.']).head? == some ':'

def checkSource (o : ManagerOptions) : Except SetupError Unit :=
  match o.source with
  | .connections => .ok ()
  | .missing => .error .missingUrl
  | .url url =>
    if hasScheme url then .ok ()
    else .error (.connect (.invalidUrl "relative URL without a base"))

/-- Sets up a manager. The digits name its worker if the options do not. -/
def init (o : ManagerOptions) (digits : String) : Operation SetupError Manager := do
  let ns ← Operation.ofExcept o.namespaceOf
  let worker ← Operation.ofExcept (o.workerOf digits)
  Operation.ofExcept o.checkSource
  let name := o.schema.getD defaultSchema
  let schema ← Operation.mapError (fun e => .query (.ofDatabase e))
    (Query.fetchOne ⟨"", .quoteIdentifier name⟩ (Row.first Datum.text?))
  (Migration.migrate schema).mapError .migration
  return { schema, ns, worker }

end ManagerOptions

end TaskQueue
