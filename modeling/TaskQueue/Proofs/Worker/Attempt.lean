import TaskQueue.Proofs.Database.Exchange
import TaskQueue.Worker.Settlement

/-!
# Attempts to settle a task

A settlement is attempted in one transaction, which sends one statement about the task. Whether the
attempt comes to its end or not, it settles nothing else.
-/

namespace TaskQueue

def Request.isSettling : Request → Bool
  | .run ⟨_, .unlockTask ..⟩ | .run ⟨_, .failTask ..⟩ | .run ⟨_, .returnTask ..⟩ => true
  | _ => false

/-- The statement of a settlement: a task is released with no result, it is failed with the reason,
or it is given back by the worker that has it. -/
def Settlement.statement (m : Manager) : Settlement → Statement
  | release id => ⟨m.schema, .unlockTask m.ns id .null⟩
  | fail id reason => ⟨m.schema, .failTask m.ns id (.text reason)⟩
  | giveBack id => ⟨m.schema, .returnTask m.ns id m.worker⟩

/-- An attempt at a settlement, and what was asked in it. -/
structure Attempt where
  settlement : Settlement
  asked : List Request

namespace Attempt

/-- An attempt sends the statement of its settlement once and sends no other that settles a task. It
sends nothing if its transaction did not begin. -/
def Calls (m : Manager) (a : Attempt) : Prop :=
  a.asked = [.begin] ∨ ∃ rest, a.asked = .begin :: .run (a.settlement.statement m) :: rest ∧
    ∀ r ∈ rest, r.isSettling = false

theorem calls_settle {m : Manager} {s : Settlement} {change : Query (Option Int64)}
    (h : Operation.Begins (.run (s.statement m)) (·.isSettling = false) change)
    (replies : List Reply) : Calls m ⟨s, ((m.settle s.id change).run.hear replies).1⟩ := by
  refine Operation.Begins.transaction (P := (·.isSettling = false)) ?_ rfl rfl replies
  refine .bind (.bind (.mapError h) fun _ => .orFail) fun _ => .bind ?_ fun _ => trivial
  exact .bind (.mapError (Query.asks_fetchOptional rfl)) fun _ => .orFail

/-- What is asked when a settlement is carried out, whatever is replied. -/
theorem calls_carryOut (m : Manager) (s : Settlement) (replies : List Reply) :
    Calls m ⟨s, ((s.carryOut m).run.hear replies).1⟩ := by
  cases s with
  | release id => exact calls_settle (s := .release id) Query.begins_fetchOne replies
  | fail id reason => exact calls_settle (s := .fail id reason) Query.begins_fetchOne replies
  | giveBack id => exact calls_settle (s := .giveBack id) Query.begins_fetchOne replies

end Attempt

end TaskQueue
