import TaskQueue.Proofs.Pool.Step

/-!
# The cancellation of jobs

A callback sees that it is to stop when the parent of all jobs is cancelled, or when its own time is
up, and for no other reason. A cancelled pool accepts nothing any more. What it had accepted before
it still runs.
-/

namespace TaskQueue

namespace Job

variable {α : Type}

/-- Whether a worker took a job from the queue at some time. -/
def isTaken (j : Job α) : Bool :=
  match j.stage with
  | .running .. | .ended _ => true
  | .waiting | .refused _ | .queued => false

/-- A job is told to stop on its own account when its time is up, and not before it runs. -/
def ToldInTime (now : Instant) (j : Job α) : Prop :=
  match j.stage with
  | .waiting | .refused _ | .queued => j.cancelled = false
  | .running since late => j.cancelled = late ∧
    (late = true → ∃ limit, j.limit = some limit ∧ since + limit.nanos ≤ now)
  | .ended _ => True

theorem ToldInTime.mono {now later : Instant} {j : Job α} (h : j.ToldInTime now)
    (hle : now ≤ later) : j.ToldInTime later := by
  unfold ToldInTime at h ⊢
  split at h
  case h_4 =>
    refine ⟨h.1, fun hlate => ?_⟩
    obtain ⟨limit, hlimit, hdue⟩ := h.2 hlate
    exact ⟨limit, hlimit, Nat.le_trans hdue hle⟩
  all_goals exact h

end Job

namespace Pool

variable {α : Type} {now : Instant} {p p' : Pool α} {m : Move α} {i k : Nat} {j : Job α}

theorem Step.toldInTime (h : Step now p m p') (hp : ∀ j ∈ p.jobs, j.ToldInTime now) :
    ∀ j ∈ p'.jobs, j.ToldInTime now := by
  have hold {i : Nat} {j : Job α} (hj : p.jobs[i]? = some j) := hp j (List.mem_of_getElem? hj)
  cases h with
  | called =>
      intro j hj
      rcases List.mem_append.mp hj with hj | hj
      · exact hp j hj
      · cases List.mem_singleton.mp hj
        cases hc : p.closed <;> simp [Job.ToldInTime, firstStage, hc]
  | refused _ hj hs | admitted _ _ _ hj hs =>
      have htold := hold hj
      simp only [Job.ToldInTime, hs] at htold
      exact forall_modify hp hj htold
  | started _ _ hj hs =>
      have htold := hold hj
      simp only [Job.ToldInTime, hs] at htold
      exact forall_modify hp hj ⟨htold, by simp⟩
  | expired hj _ hlimit hdue =>
      exact forall_modify hp hj ⟨rfl, fun _ => ⟨_, hlimit, hdue⟩⟩
  | finished hj _ => exact forall_modify hp hj trivial
  | cancelled | closed => exact hp

theorem Step.cancelled_iff (h : Step now p m p') :
    p'.cancelled = true ↔ p.cancelled = true ∨ m = .cancel := by
  cases h <;> simp [setStage]

end Pool

end TaskQueue
