import TaskQueue.Migration.Basic
import TaskQueue.Proofs.Manager.Call

/-!
# The plan of a bootstrap

Bringing a database up to date says the statements of a plan, one after the other, and stops at the
first that fails. The plan begins with the same statements for every database; the last of them asks
for the progress of the database, which tells the rest: the migrations that it lacks, in order, each
followed by its record.
-/

namespace TaskQueue.Migration

variable {α β : Type}

/-- A database lacks a migration whose number is beyond its last one. -/
def Progress.Lacks (p : Progress) (m : Migration) : Prop :=
  ∀ id ∈ p.id, id.toInt < (m.number.toNat : Int)

instance (p : Progress) (m : Migration) : Decidable (p.Lacks m) :=
  inferInstanceAs (Decidable (∀ id ∈ p.id, id.toInt < (m.number.toNat : Int)))

/-- The migrations that a database lacks. -/
def pending (p : Progress) : List Migration := all.filter p.Lacks

/-- The statements of a migration for a schema, and its record. -/
def commands (schema : String) (m : Migration) : List Command :=
  (m.statements schema).map .script ++
    [.recordMigration (Int32.ofNat m.number.toNat) m.breaking]

def setup : List Command := [.lockMigrations, .serverVersion, .createSchema, .createMigrations]

/-- What is said inside the transaction, as far as the progress of the database is known. -/
def plan (schema : String) (p : Option Progress) : List Command :=
  setup ++ .lastMigration :: p.toList.flatMap fun p => (pending p).flatMap (commands schema)

/-- The failure that an exchange is: the statement failed, its row is missing or cannot be read, or
it tells a version that is not supported. The reply to a rollback is not looked at. -/
def failure? (e : Exchange) : Option MigrationError :=
  match e.request with
  | .run ⟨_, .serverVersion⟩ =>
    causeOf? ((e.reply.one fun row => row.required "server_version_num" Datum.text?).mapError
      .database >>= ServerVersion.check)
  | .run ⟨_, .lastMigration⟩ => causeOf? ((e.reply.one Progress.ofRow).mapError .database)
  | .run _ | .begin | .commit => causeOf? (e.reply.changed.mapError .database)
  | .rollback | .listen _ => none

/-- The progress that an exchange tells of. -/
def progress? (e : Exchange) : Option Progress :=
  match e.request with
  | .run ⟨_, .lastMigration⟩ => (e.reply.one Progress.ofRow).toOption
  | _ => none

/-- A part of a bootstrap that says what is planned until something fails. If nothing does, it may
fail for a reason of its own. -/
structure Performed (schema : String) (plan : List Command) (own : Option MigrationError)
    (log : List Exchange) (r : Except MigrationError α) : Prop where
  requests : log.map (·.request) <+: plan.map fun c => .run ⟨schema, c⟩
  complete : log.findSome? failure? = none →
    log.map (·.request) = plan.map fun c => .run ⟨schema, c⟩
  failure : causeOf? r = (log.findSome? failure?).or own

/-- A part of a bootstrap that says what is planned, whatever it hears. -/
def Performs (schema : String) (plan : List Command) (own : Option MigrationError)
    (op : Step α) : Prop :=
  ∀ log r, op.Holds log r → Performed schema plan own log r

variable {schema : String} {plan₁ plan₂ : List Command} {own : Option MigrationError}

namespace Performs

theorem ofExcept {r : Except MigrationError α} :
    Performs schema [] (causeOf? r) (Operation.ofExcept r) := by
  intro log r' hlog
  obtain ⟨rfl, rfl⟩ := Dialogue.holds_done.mp hlog
  exact ⟨List.prefix_rfl, fun _ => rfl, rfl⟩

theorem bind {op : Step α} {f : α → Step β} (hop : Performs schema plan₁ none op)
    (hf : ∀ a, Performs schema plan₂ own (f a)) :
    Performs schema (plan₁ ++ plan₂) own (op >>= f) := by
  intro log r hlog
  obtain ⟨e, rfl, hfirst⟩ | ⟨a, first, rest, rfl, hfirst, hrest⟩ := Operation.holds_bind.mp hlog
  · obtain ⟨hrequests, -, hfailure⟩ := hop _ _ hfirst
    rw [Option.or_none] at hfailure
    constructor
    case requests =>
      rw [List.map_append]
      exact hrequests.trans (List.prefix_append _ _)
    case complete =>
      intro hnone
      cases hfailure.trans hnone
    case failure =>
      rw [← hfailure]
      rfl
  · obtain ⟨-, hcomplete, hgood⟩ := hop _ _ hfirst
    rw [Option.or_none] at hgood
    have hsaid := hcomplete hgood.symm
    obtain ⟨hrequests, hcomplete, hfailure⟩ := hf a _ _ hrest
    have hnext : (first ++ rest).findSome? failure? = rest.findSome? failure? := by
      rw [List.findSome?_append, ← hgood]
      rfl
    constructor
    case requests =>
      rw [List.map_append, List.map_append, hsaid]
      exact (List.prefix_append_right_inj _).mpr hrequests
    case complete =>
      intro hnone
      rw [List.map_append, List.map_append, hsaid, hcomplete (hnext.symm.trans hnone)]
    case failure => rw [hnext, hfailure]

/-- A query is one statement, which fails when its reply cannot be read. -/
theorem asking {command : Command} {read : Reply → Except MigrationError α}
    (hfailure : ∀ reply, failure? ⟨.run ⟨schema, command⟩, reply⟩ = causeOf? (read reply)) :
    Performs schema [command] none (Operation.asking ⟨schema, command⟩ read) := by
  intro log r hlog
  obtain ⟨reply, rfl, rfl⟩ := Operation.holds_asking.mp hlog
  refine ⟨List.prefix_rfl, fun _ => rfl, ?_⟩
  rw [List.findSome?_singleton, hfailure, Option.or_none]

theorem execute {command : Command} (hversion : command ≠ .serverVersion)
    (hlast : command ≠ .lastMigration) :
    Performs schema [command] none (Migration.execute schema command) := by
  change Performs schema ([command] ++ []) none
    (ofQuery (Query.execute ⟨schema, command⟩) >>= fun _ => Operation.ofExcept (.ok ()))
  refine bind ?_ fun _ => ofExcept
  rw [ofQuery, Query.execute_eq, Operation.mapError_asking]
  exact asking fun reply => by cases command <;> first | rfl | contradiction

theorem checkServer : Performs schema [.serverVersion] none (Migration.checkServer schema) := by
  have hread (r : Except MigrationError String) :
      Operation.ofExcept r >>= (fun text => Operation.ofExcept (ServerVersion.check text)) =
        Operation.ofExcept (r >>= ServerVersion.check) := by
    cases r <;> rfl
  rw [Migration.checkServer, ofQuery, Query.fetchOne_eq, Operation.mapError_asking,
    Operation.asking_bind]
  simp only [hread]
  exact asking fun _ => rfl

theorem forM {l : List β} {f : β → Step Unit} {plan : β → List Command}
    (hf : ∀ b, Performs schema (plan b) none (f b)) :
    Performs schema (l.flatMap plan) none (l.forM f) := by
  induction l with
  | nil => exact ofExcept (r := .ok ())
  | cons b l ih => exact bind (hf b) fun _ => ih

theorem apply (m : Migration) :
    Performs schema (commands schema m) none (Migration.apply schema m) := by
  have hscripts : (m.statements schema).map Command.script =
      (m.statements schema).flatMap fun text => [.script text] :=
    List.map_eq_flatMap
  rw [commands, hscripts]
  exact bind (forM fun _ => execute (by simp) (by simp)) fun _ => execute (by simp) (by simp)

end Performs

end TaskQueue.Migration
