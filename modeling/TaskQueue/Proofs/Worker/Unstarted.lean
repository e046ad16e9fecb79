import TaskQueue.Proofs.Worker.Parts
import TaskQueue.Proofs.Worker.Settled

/-!
# Tasks that were not started

What becomes of a task that no worker of the pool had taken when the run was cancelled depends on
whether the pool had accepted it. A task that it had not accepted is given back. One that waited in
the queue of the pool is still run, in a context that is cancelled, and settled by its result.
-/

namespace TaskQueue

namespace Dispatched

variable {w : Worker} {p p' : Pool Work} {d : Dispatched} {q : Job Work → Bool}

/-- A task was submitted as a job that is now of some kind. -/
def JobIs (p : Pool Work) (d : Dispatched) (q : Job Work → Bool) : Prop :=
  ∃ i j, d.job? = some i ∧ p.jobs[i]? = some j ∧ q j = true

theorem jobIs_iff {i : Nat} (hd : d.job? = some i) :
    d.JobIs p q ↔ (p.jobs[i]?).any q = true := by
  simp [JobIs, hd, Option.any_eq_true]

theorem JobIs.congr (h : ∀ i : Nat, (p'.jobs[i]?).any q = (p.jobs[i]?).any q) :
    d.JobIs p' q ↔ d.JobIs p q := by
  cases hd : d.job? with
  | none => simp [JobIs, hd]
  | some i => rw [jobIs_iff hd, jobIs_iff hd, h i]

end Dispatched

namespace WorkerHistory

variable {w : Worker} {h h₀ mid : WorkerHistory} {before after : List Event}

end WorkerHistory

end TaskQueue
