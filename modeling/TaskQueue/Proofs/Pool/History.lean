import TaskQueue.Pool.Submission
import TaskQueue.Proofs.Pool.Step
import TaskQueue.Proofs.Run

/-!
# Histories of a pool

A pool with the log of what happened to it and to its jobs. Its moves come in any order: calls may
begin at any time, whether or not earlier ones were answered, callbacks end at any time and in any
way, the parent is cancelled and the pool is closed whenever it may be, and time passes in between.
What the log says of a job can be read off the stage of the job.
-/

namespace TaskQueue

/-- Something that happens to a pool or to one of its jobs. -/
inductive Occurrence where
  | closed
  | cancelled
  | called (job : Nat)
  | refused (job : Nat) (why : Refusal)
  | accepted (job : Nat)
  | ran (job : Nat)
  | reported (job : Nat) (result : RunResult)
deriving DecidableEq, Repr

namespace Occurrence

def job? : Occurrence → Option Nat
  | closed | cancelled => none
  | called i | refused i _ | accepted i | ran i | reported i _ => some i

/-- What is said about a job. -/
def about (log : List Occurrence) (i : Nat) : List Occurrence :=
  log.filter (·.job? = some i)

/-- What had happened before something happened first. -/
def prior (log : List Occurrence) (o : Occurrence) : List Occurrence :=
  log.takeWhile (· ≠ o)

variable {log os : List Occurrence} {o : Occurrence} {i : Nat}

theorem about_append : about (log ++ os) i = about log i ++ about os i := List.filter_append ..

theorem mem_about : o ∈ about log i ↔ o ∈ log ∧ o.job? = some i := by
  simp [about]

theorem about_of_forall (h : ∀ o ∈ os, o.job? = some i) (k : Nat) :
    about os k = if i = k then os else [] := by
  split
  · subst k
    exact List.filter_eq_self.mpr fun o ho => by simp [h o ho]
  · rename_i hik
    exact List.filter_eq_nil_iff.mpr fun o ho => by simp [h o ho, hik]

/-- What happens later does not change what had happened before. -/
theorem prior_append_of_mem (h : o ∈ log) : prior (log ++ os) o = prior log o := by
  induction log with
  | nil => cases h
  | cons q log ih =>
      simp only [prior, List.cons_append, List.takeWhile_cons]
      split
      · rename_i hq
        have hmem : o ∈ log := by
          rcases List.mem_cons.mp h with rfl | hmem
          · simp at hq
          · exact hmem
        simpa [prior] using ih hmem
      · rfl

theorem prior_append_of_not_mem (h : o ∉ log) :
    prior (log ++ os) o = log ++ prior os o := by
  refine List.takeWhile_append_of_pos ?_
  intro q hq
  simp only [decide_eq_true_eq]
  rintro rfl
  exact h hq

/-- What holds of everything that happened, together with what had happened before, is kept when
something more happens. -/
theorem forall_prior_append {Q : Occurrence → List Occurrence → Prop}
    (h : ∀ o ∈ log, Q o (prior log o)) (hnew : ∀ o ∈ os, o ∉ log → Q o (log ++ prior os o)) :
    ∀ o ∈ log ++ os, Q o (prior (log ++ os) o) := by
  intro o ho
  by_cases hlog : o ∈ log
  · exact prior_append_of_mem hlog ▸ h o hlog
  · have hos : o ∈ os := (List.mem_append.mp ho).resolve_left hlog
    exact prior_append_of_not_mem hlog ▸ hnew o hos hlog

end Occurrence

/-- Whether a handler runs for some work: there is none for a payload that does not decode. -/
def Work.isRunnable : Work → Bool
  | .undecodable _ => false
  | .callback .. | .external => true

namespace Job

def runs (i : Nat) (j : Job Work) : List Occurrence :=
  if j.work.isRunnable then [.ran i] else []

@[simp] theorem mem_runs {i : Nat} {j : Job Work} {o : Occurrence} :
    o ∈ j.runs i ↔ o = .ran i ∧ j.work.isRunnable = true := by
  unfold runs
  split <;> simp [*]

/-- All that has happened to a job at its stage. -/
def trail (i : Nat) (j : Job Work) : List Occurrence :=
  match j.stage with
  | .waiting => [.called i]
  | .refused why => [.called i, .refused i why]
  | .queued => [.called i, .accepted i]
  | .running _ _ => [.called i, .accepted i] ++ j.runs i
  | .ended result => [.called i, .accepted i] ++ j.runs i ++ [.reported i result]

end Job

namespace Pool

variable {now : Instant} {p p' : Pool Work} {m : Move Work}

/-- What happens with a move. -/
def occurrences (p : Pool Work) : Move Work → List Occurrence
  | .call .. =>
    .called p.jobs.length :: if p.closed then [.refused p.jobs.length .closed] else []
  | .refuse i => [.refused i .cancelled]
  | .enqueue => (p.jobs.findIdx? Job.isWaiting).toList.map .accepted
  | .start =>
    match p.jobs.findIdx? Job.isQueued with
    | some i => (p.jobs[i]?).toList.flatMap (·.runs i)
    | none => []
  | .expire _ => []
  | .finish i failure =>
    match p.jobs[i]? with
    | some j =>
      match j.stage with
      | .running _ late => [.reported i (j.resultOf late failure)]
      | _ => []
    | none => []
  | .cancel => [.cancelled]
  | .close => [.closed]

/-- All that has happened to a job, nothing before its call. -/
def trail (p : Pool Work) (i : Nat) : List Occurrence :=
  match p.jobs[i]? with
  | some j => j.trail i
  | none => []

/-- A job that changes adds to its own trail only. -/
theorem trail_of_change {i k : Nat} {j j' : Job Work} {os : List Occurrence}
    (hj : p.jobs[i]? = some j)
    (hjobs : p'.jobs[k]? = if i = k then some j' else p.jobs[k]?)
    (hos : ∀ o ∈ os, o.job? = some i) (htrail : j'.trail i = j.trail i ++ os) :
    p'.trail k = p.trail k ++ Occurrence.about os k := by
  rw [Occurrence.about_of_forall hos]
  by_cases hik : i = k
  · subst k
    simp [Pool.trail, hj, hjobs, htrail]
  · simp [Pool.trail, hjobs, hik]

/-- What happens with a step is what it adds to the trails. -/
theorem Step.trail (h : Step now p m p') (k : Nat) :
    p'.trail k = p.trail k ++ Occurrence.about (p.occurrences m) k := by
  cases h with
  | @called worker subject limit work context hc =>
      have hos : ∀ o ∈ p.occurrences (.call worker subject limit work),
          o.job? = some p.jobs.length := by
        cases hcl : p.closed <;> simp [occurrences, hcl, Occurrence.job?]
      rw [Occurrence.about_of_forall hos]
      rcases Nat.lt_trichotomy p.jobs.length k with hk | rfl | hk
      · have hnone : (p.jobs ++ [{ work, context, limit, stage := p.firstStage }])[k]? = none :=
          List.getElem?_eq_none (by simp only [List.length_append, List.length_singleton]; omega)
        simp [Pool.trail, hnone, List.getElem?_eq_none (Nat.le_of_lt hk), Nat.ne_of_lt hk]
      · cases hcl : p.closed <;> simp [Pool.trail, occurrences, Job.trail, firstStage, hcl]
      · simp [Pool.trail, List.getElem?_append_left hk, Nat.ne_of_gt hk]
  | refused hc hj hs =>
      exact trail_of_change hj (getElem?_setStage hj) (by simp [occurrences, Occurrence.job?])
        (by simp [occurrences, Job.trail, hs])
  | admitted hc hq hi hj hs =>
      exact trail_of_change hj (getElem?_setStage hj)
        (by simp [occurrences, hi, Occurrence.job?]) (by simp [occurrences, hi, Job.trail, hs])
  | @started i j hr hi hj hs =>
      have hos : p.occurrences .start = j.runs i := by simp [occurrences, hi, hj]
      rw [hos]
      exact trail_of_change hj (getElem?_setStage hj) (by simp [Occurrence.job?])
        (by simp [Job.trail, Job.runs, hs])
  | expired hj hs _ _ =>
      exact trail_of_change hj (getElem?_modify hj) (by simp [occurrences])
        (by simp [occurrences, Job.trail, Job.runs, hs])
  | finished hj hs =>
      refine trail_of_change hj (getElem?_setStage hj) ?_ ?_
      · simp [occurrences, hj, hs, Occurrence.job?]
      · simp [occurrences, Job.trail, Job.runs, hj, hs]
  | cancelled | closed => simp [Pool.trail, occurrences, Occurrence.about, Occurrence.job?]

end Pool

/-! ## Histories -/

/-- A pool with the clock and the log of what happened to it. -/
structure PoolHistory where
  now : Instant
  pool : Pool Work
  log : List Occurrence := []

namespace PoolHistory

inductive Event where
  | move (m : Pool.Move Work)
  | pass (nanos : Nat)

def start (size : Nat) (now : Instant) : PoolHistory :=
  { now, pool := .ofSize size }

def step? (e : Event) (h : PoolHistory) : Option PoolHistory :=
  match e with
  | .move m =>
    (h.pool.step? h.now m).map fun pool => { h with pool, log := h.log ++ h.pool.occurrences m }
  | .pass nanos => some { h with now := h.now + nanos }

variable {h h' : PoolHistory}

theorem step?_move {m} (hs : step? (.move m) h = some h') :
    ∃ pool, Pool.Step h.now h.pool m pool ∧
      h' = { h with pool, log := h.log ++ h.pool.occurrences m } := by
  obtain ⟨pool, hp, rfl⟩ := Option.map_eq_some_iff.mp hs
  exact ⟨pool, Pool.step?_sound hp, rfl⟩

end PoolHistory

end TaskQueue
