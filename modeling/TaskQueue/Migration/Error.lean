import TaskQueue.Database.Error
import TaskQueue.Migration.ServerVersion

/-!
# Failures of migrations

Why a schema was not brought up to date.
-/

namespace TaskQueue

inductive MigrationError where
  | unreadableVersion (cause : NumberError)
  | incompatibleVersion (version : Nat)
  /-- The database is ahead of this library by a migration that breaks it. -/
  | incompatibleRevision (latest breaking : Int32) (highest : UInt32)
  | database (cause : DatabaseError)
deriving Repr, DecidableEq

namespace MigrationError

def message : MigrationError → String
  | unreadableVersion cause => s!"Error occured while parsing postgres version: {cause.message}"
  | incompatibleVersion version =>
    s!"pgqueue requires PostgreSQL v12.0 or greater (detected `server_version_num` = {version})"
  | incompatibleRevision latest breaking highest =>
    s!"Database is using pgqueue schema revision {latest} which includes breaking migration " ++
    s!"{breaking}, but this version only supports up to revision {highest}"
  | database cause => s!"Error occured while migrate: {cause.message}"

end MigrationError

namespace ServerVersion

/-- The version that a text tells, if it is new enough. -/
def check (s : String) : Except MigrationError Nat :=
  match readNumber s with
  | .error e => .error (.unreadableVersion e)
  | .ok version =>
    if version < oldest then .error (.incompatibleVersion version) else .ok version

end ServerVersion

end TaskQueue
