import TaskQueue.Manager.Error

/-!
# Managers

A manager is what all operations of a namespace start from: the schema that holds the tables, the
namespace, and the name of the worker that it claims tasks for.
-/

namespace TaskQueue

structure Manager where
  schema : String
  ns : String
  worker : String
deriving Repr, DecidableEq, Inhabited

namespace Manager

/-- The manager of another namespace, which is taken as it is. -/
def within (m : Manager) (ns : String) : Manager :=
  { m with ns }

def cleanup (m : Manager) : Manager :=
  m.within cleanupNamespace

def withNamespace (m : Manager) (ns : String) : Except OperationError Manager := do
  match Name.validate "namespace" ns with
  | .ok ns => return m.within ns
  | .error e => throw (.ofName e)

end Manager

end TaskQueue
