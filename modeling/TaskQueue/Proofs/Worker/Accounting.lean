import Mathlib.Data.List.Basic
import TaskQueue.Proofs.Worker.History

/-!
# Accounting for claimed tasks

Where a claimed task can be: with the task loop, in its channel, with the dispatcher, in the pool,
in a refusal that the dispatcher has not heard yet, among the settlements, or done with. The books
of a worker say that every task is in one of these places, and that every settlement belongs to one
task.
-/

namespace TaskQueue

/-! ## Jobs of tasks -/

namespace Job

/-- What is settled of a job that was refused, unless it was for a ticker. -/
def refusal? (j : Job Work) : Option Settlement :=
  match j.stage, j.context.subject with
  | .refused _, .task t => some (.giveBack t.id)
  | _, _ => none

/-- Whether a job is for a task. -/
def isForTask (j : Job Work) : Bool := j.context.subject.task?.isSome

end Job

/-- A task keeps its outcome in a pool that knows its job. -/
theorem Dispatched.Fits.mono {w : Worker} {p p' : Pool Work} {d : Dispatched} (h : d.Fits w p)
    (hjobs : ∀ {i : Nat} {j : Job Work}, p.jobs[i]? = some j → ∃ j' : Job Work,
      p'.jobs[i]? = some j' ∧ j'.context = j.context) : d.Fits w p' := by
  unfold Dispatched.Fits at h ⊢
  split at h
  · exact h
  · exact h
  · obtain ⟨hexpired, hhandler, j, hi, hsubject⟩ := h
    obtain ⟨j', hi', hcontext⟩ := hjobs hi
    exact ⟨hexpired, hhandler, j', hi', hcontext ▸ hsubject⟩

/-- What the pool and the dispatchers know of the tasks that were dispatched: each task that was
submitted has a job of its own, each job of a task stands for one, and a dispatcher waits for the
call that it made. -/
structure JobsAccount (w : Worker) (r : WorkerRun) (ds : List Dispatched) : Prop where
  fits : ∀ d ∈ ds, d.Fits w r.pool
  distinct : (ds.filterMap Dispatched.job?).Nodup
  complete : ∀ {i j}, r.pool.jobs[i]? = some j → j.isForTask = true →
    i ∈ ds.filterMap Dispatched.job?
  busy : ∀ {line i}, r.dispatchers.get line = .submitting i →
    ∃ j, r.pool.jobs[i]? = some j ∧ (j.isForTask = true ↔ line = .tasks)
  waiting : ∀ {i j}, r.pool.jobs[i]? = some j → j.isWaiting = true → j.isForTask = true →
    r.dispatchers.get .tasks = .submitting i

namespace JobsAccount

variable {w : Worker} {now : Instant} {r r' : WorkerRun} {ds new : List Dispatched}
  {d : Dispatched} {line : Line} {i : Nat} {j : Job Work}

theorem job_of_mem (hj : JobsAccount w r ds) (hd : d ∈ ds) (hi : d.job? = some i) :
    ∃ j, r.pool.jobs[i]? = some j ∧ j.context.subject = .task d.task := by
  have hfits := hj.fits d hd
  unfold Dispatched.Fits at hfits
  unfold Dispatched.job? at hi
  split at hi
  · rename_i hout
    cases hi
    rw [hout] at hfits
    exact hfits.2.2
  all_goals cases hi

theorem job_lt (hj : JobsAccount w r ds) (hi : i ∈ ds.filterMap Dispatched.job?) :
    i < r.pool.jobs.length := by
  obtain ⟨d, hd, hi⟩ := List.mem_filterMap.mp hi
  obtain ⟨j, hjob, -⟩ := hj.job_of_mem hd hi
  exact (List.getElem?_eq_some_iff.mp hjob).1

theorem congr (hj : JobsAccount w r ds) (hpool : r'.pool = r.pool)
    (hdispatchers : r'.dispatchers = r.dispatchers) : JobsAccount w r' ds := by
  obtain ⟨hfits, hdistinct, hcomplete, hbusy, hwaiting⟩ := hj
  rw [← hpool] at hfits hcomplete hbusy hwaiting
  rw [← hdispatchers] at hbusy hwaiting
  exact ⟨hfits, hdistinct, hcomplete, hbusy, hwaiting⟩

/-- A pool that adds no job, and in which no job begins to wait, keeps the account. -/
theorem withPool {pool : Pool Work} (hj : JobsAccount w r ds)
    (hlength : pool.jobs.length = r.pool.jobs.length)
    (hjobs : ∀ {i : Nat} {j : Job Work}, r.pool.jobs[i]? = some j → ∃ j' : Job Work,
      pool.jobs[i]? = some j' ∧ j'.context = j.context ∧
        (j'.isWaiting = true → j.isWaiting = true)) :
    JobsAccount w { r with pool } ds := by
  have hback {i : Nat} {j' : Job Work} (hi : pool.jobs[i]? = some j') : ∃ j : Job Work,
      r.pool.jobs[i]? = some j ∧ j'.context = j.context ∧
        (j'.isWaiting = true → j.isWaiting = true) := by
    have hlt : i < r.pool.jobs.length := hlength ▸ (List.getElem?_eq_some_iff.mp hi).1
    obtain ⟨j'', hj'', hrest⟩ := hjobs (List.getElem?_eq_getElem hlt)
    cases hi.symm.trans hj''
    exact ⟨_, List.getElem?_eq_getElem hlt, hrest⟩
  constructor
  case fits =>
    refine fun d hd => (hj.fits d hd).mono fun hi => ?_
    obtain ⟨j', hi', hcontext, -⟩ := hjobs hi
    exact ⟨j', hi', hcontext⟩
  case distinct => exact hj.distinct
  case complete =>
    intro i j' hi ht
    obtain ⟨j, hi, hcontext, -⟩ := hback hi
    exact hj.complete hi (by simpa [Job.isForTask, hcontext] using ht)
  case busy =>
    intro line i hd
    obtain ⟨j, hi, hiff⟩ := hj.busy hd
    obtain ⟨j', hi', hcontext, -⟩ := hjobs hi
    exact ⟨j', hi', by simpa [Job.isForTask, hcontext] using hiff⟩
  case waiting =>
    intro i j' hi hw ht
    obtain ⟨j, hi, hcontext, hwait⟩ := hback hi
    exact hj.waiting hi (hwait hw) (by simpa [Job.isForTask, hcontext] using ht)

/-- So does every step of the pool that begins no call. -/
theorem step {m pool} (hj : JobsAccount w r ds) (hp : Pool.Step now r.pool m pool)
    (hm : m.isCall = false) : JobsAccount w { r with pool } ds := by
  refine hj.withPool (hp.length_eq hm) fun hi => ?_
  obtain ⟨j', hi', hcontext, -, hwait⟩ := hp.job_of_get hm hi
  exact ⟨j', hi', hcontext, by simpa [Job.isWaiting] using hwait⟩

theorem setDispatcher {next : Dispatcher} (hj : JobsAccount w r ds)
    (hnext : ∀ i, next ≠ .submitting i)
    (hwait : ∀ i j, r.dispatchers.get line = .submitting i → r.pool.jobs[i]? = some j →
      j.isWaiting = false) : JobsAccount w (r.setDispatcher line next) ds := by
  constructor
  case fits => exact hj.fits
  case distinct => exact hj.distinct
  case complete => exact hj.complete
  case busy =>
    intro line' i hd
    by_cases hline : line = line'
    · subst hline
      rw [WorkerRun.get_setDispatcher_self] at hd
      exact absurd hd (hnext i)
    · rw [WorkerRun.get_setDispatcher_of_ne hline] at hd
      exact hj.busy hd
  case waiting =>
    intro i j hi hw ht
    have hd := hj.waiting hi hw ht
    by_cases hline : line = .tasks
    · subst hline
      rw [hwait i j hd hi] at hw
      cases hw
    · rw [WorkerRun.get_setDispatcher_of_ne hline]
      exact hd

/-- A task that was not submitted needs no job. -/
theorem append (hj : JobsAccount w r ds) (hfits : d.Fits w r.pool) (hjob : d.job? = none) :
    JobsAccount w r (ds ++ [d]) := by
  have hsame : (ds ++ [d]).filterMap Dispatched.job? = ds.filterMap Dispatched.job? := by
    simp [hjob]
  refine ⟨?_, hsame ▸ hj.distinct, fun hi ht => hsame ▸ hj.complete hi ht, hj.busy, hj.waiting⟩
  intro d' hd'
  rcases List.mem_append.mp hd' with hd' | hd'
  · exact hj.fits d' hd'
  · rw [List.mem_singleton.mp hd']
    exact hfits

/-- The job that a submission makes is for what is submitted, and stands after the others. -/
theorem exists_of_submits {s : Submission} (hs : WorkerRun.Submits now r line s r') :
    ∃ j, j.context.subject = s.subject ∧ j.stage = r.pool.firstStage ∧
      r' = { r with pool := { r.pool with jobs := r.pool.jobs ++ [j] } }.setDispatcher line
        (.submitting r.pool.jobs.length) := by
  obtain ⟨pool, hp, rfl⟩ := hs
  cases hp with
  | called hcontext => exact ⟨_, Pool.subject_of_make? hcontext, rfl, rfl⟩

/-- A dispatcher that was idle submits something. Only the dispatcher of tasks submits tasks, and it
takes down each that it submits. -/
theorem submit {s : Submission} (hj : JobsAccount w r ds)
    (hidle : r.dispatchers.get line = .idle) (hs : WorkerRun.Submits now r line s r')
    (hline : s.subject.task?.isSome = true ↔ line = .tasks)
    (hnew : new.filterMap Dispatched.job? = if line = .tasks then [r.pool.jobs.length] else [])
    (hfits : ∀ d ∈ new, d.Fits w r'.pool) : JobsAccount w r' (ds ++ new) := by
  obtain ⟨j₀, hsubject, -, rfl⟩ := exists_of_submits hs
  have hfor : j₀.isForTask = true ↔ line = .tasks := by rw [Job.isForTask, hsubject, hline]
  have hold {i : Nat} {j : Job Work} (hi : r.pool.jobs[i]? = some j) :
      (r.pool.jobs ++ [j₀])[i]? = some j := by
    rw [List.getElem?_append_left (List.getElem?_eq_some_iff.mp hi).1, hi]
  have hcases {i : Nat} {j : Job Work} (hi : (r.pool.jobs ++ [j₀])[i]? = some j) :
      r.pool.jobs[i]? = some j ∨ i = r.pool.jobs.length ∧ j = j₀ := by
    rw [List.getElem?_append] at hi
    split at hi
    · exact .inl hi
    · rename_i hge
      rw [List.getElem?_singleton] at hi
      split at hi <;> cases hi
      exact .inr ⟨by omega, rfl⟩
  constructor
  case fits =>
    intro d hd
    rcases List.mem_append.mp hd with hd | hd
    · exact (hj.fits d hd).mono fun hi => ⟨_, hold hi, rfl⟩
    · exact hfits d hd
  case distinct =>
    rw [List.filterMap_append, hnew]
    split
    · refine List.nodup_append.mpr ⟨hj.distinct, by simp, ?_⟩
      intro i hi k hk
      rw [List.mem_singleton.mp hk]
      exact Nat.ne_of_lt (hj.job_lt hi)
    · simpa using hj.distinct
  case complete =>
    intro i j hi ht
    rw [List.filterMap_append, hnew]
    rcases hcases hi with hi | ⟨rfl, rfl⟩
    · exact List.mem_append_left _ (hj.complete hi ht)
    · simp [hfor.mp ht]
  case busy =>
    intro line' i hd
    by_cases hl : line = line'
    · subst hl
      rw [WorkerRun.get_setDispatcher_self, Dispatcher.submitting.injEq] at hd
      subst hd
      exact ⟨j₀, List.getElem?_concat_length, hfor⟩
    · rw [WorkerRun.get_setDispatcher_of_ne hl] at hd
      obtain ⟨j, hi, hiff⟩ := hj.busy hd
      exact ⟨j, hold hi, hiff⟩
  case waiting =>
    intro i j hi hw ht
    rcases hcases hi with hi | ⟨rfl, rfl⟩
    · have hd := hj.waiting hi hw ht
      by_cases hl : line = .tasks
      · subst hl
        rw [hidle] at hd
        cases hd
      · rw [WorkerRun.get_setDispatcher_of_ne hl]
        exact hd
    · rw [hfor.mp ht]
      exact WorkerRun.get_setDispatcher_self

end JobsAccount

/-! ## Settlements of tasks -/

/-- The refusal of a task that its dispatcher has not heard yet. -/
def WorkerRun.unheard (r : WorkerRun) : List Settlement :=
  match r.dispatchers.get .tasks with
  | .submitting i => ((r.pool.jobs[i]?).bind Job.refusal?).toList
  | .idle | .ended => []

namespace WorkerRun

variable {r : WorkerRun} {line : Line} {next : Dispatcher}

theorem unheard_setDispatcher_of_ne (h : line ≠ .tasks) :
    (r.setDispatcher line next).unheard = r.unheard := by
  unfold unheard
  rw [get_setDispatcher_of_ne h]
  rfl

theorem unheard_setDispatcher (h : ∀ i, next ≠ .submitting i) :
    (r.setDispatcher .tasks next).unheard = [] := by
  unfold unheard
  rw [get_setDispatcher_self]
  cases next with
  | submitting i => exact absurd rfl (h i)
  | idle | ended => rfl

end WorkerRun

/-- What a job calls for, if it is for a task. -/
def Job.settlement? (j : Job Work) : Option Settlement :=
  j.context.subject.task?.bind fun t => Dispatched.ofJob t.id j

namespace JobsAccount

variable {w : Worker} {now : Instant} {r r' : WorkerRun} {ds : List Dispatched}
  {d : Dispatched} {p' : Pool Work} {i : Nat} {j j' : Job Work}

theorem settlement?_of_job (hj : JobsAccount w r ds) (hd : d ∈ ds) (hi : d.job? = some i)
    (hjob : r.pool.jobs[i]? = some j) : d.settlement? r.pool = j.settlement? := by
  obtain ⟨j₀, hj₀, hsubject⟩ := hj.job_of_mem hd hi
  cases hjob.symm.trans hj₀
  unfold Dispatched.job? at hi
  unfold Dispatched.settlement?
  split at hi <;> cases hi
  simp [*, Job.settlement?, Subject.task?]

/-- A job that is added changes nothing for the tasks that were dispatched before. -/
theorem settlements_append (hj : JobsAccount w r ds) (hp' : p'.jobs = r.pool.jobs ++ [j]) :
    ds.filterMap (·.settlement? p') = ds.filterMap (·.settlement? r.pool) := by
  refine List.filterMap_congr fun d hd => ?_
  unfold Dispatched.settlement?
  split
  · rfl
  · rfl
  · rename_i i hout
    have hlt : i < r.pool.jobs.length :=
      hj.job_lt (List.mem_filterMap.mpr ⟨d, hd, by simp [Dispatched.job?, hout]⟩)
    rw [hp', List.getElem?_append_left hlt]

theorem settlement?_of_other (hjobs : ∀ k, p'.jobs[k]? = if i = k then some j' else r.pool.jobs[k]?)
    (hd : d.job? ≠ some i) : d.settlement? p' = d.settlement? r.pool := by
  unfold Dispatched.job? at hd
  unfold Dispatched.settlement?
  split at hd
  · rename_i k hout
    have hk : i ≠ k := fun hk => hd (by rw [hk])
    simp [hout, hjobs, hk]
  all_goals simp [*]

/-- When a job changes that is not over yet, the tasks call for what they called for before, and for
what the job calls for then. -/
theorem perm_settlements (hj : JobsAccount w r ds) (hi : r.pool.jobs[i]? = some j)
    (hnot : j.isOver = false) (hcontext : j'.context = j.context)
    (hjobs : ∀ k, p'.jobs[k]? = if i = k then some j' else r.pool.jobs[k]?) :
    (ds.filterMap (·.settlement? p')).Perm
      (ds.filterMap (·.settlement? r.pool) ++ j'.settlement?.toList) := by
  have hsame {l : List Dispatched} (hl : ∀ d ∈ l, d.job? ≠ some i) :
      l.filterMap (·.settlement? p') = l.filterMap (·.settlement? r.pool) :=
    List.filterMap_congr fun d hd => settlement?_of_other hjobs (hl d hd)
  cases hfor : j.isForTask with
  | false =>
      -- no task was submitted as this job
      have hnone : j'.settlement? = none := by
        rw [Job.isForTask, Option.isSome_eq_false_iff, Option.isNone_iff_eq_none] at hfor
        simp [Job.settlement?, hcontext, hfor]
      have hds : ∀ d ∈ ds, d.job? ≠ some i := by
        intro d hd hdi
        obtain ⟨j₀, hj₀, hsubject⟩ := hj.job_of_mem hd hdi
        cases hi.symm.trans hj₀
        simp [Job.isForTask, hsubject, Subject.task?] at hfor
      rw [hnone, hsame hds]
      simp
  | true =>
      obtain ⟨d, hd, hdi⟩ := List.mem_filterMap.mp (hj.complete hi hfor)
      obtain ⟨l₁, l₂, rfl⟩ := List.append_of_mem hd
      have hdistinct := hj.distinct
      rw [List.filterMap_append, List.filterMap_cons_some hdi] at hdistinct
      have hl₁ : ∀ d ∈ l₁, d.job? ≠ some i := by
        intro d' hd' hi'
        have hmem := List.mem_filterMap.mpr ⟨d', hd', hi'⟩
        exact (List.nodup_append.mp hdistinct).2.2 i hmem i (by simp) rfl
      have hl₂ : ∀ d ∈ l₂, d.job? ≠ some i := by
        intro d' hd' hi'
        have hmem := List.mem_filterMap.mpr ⟨d', hd', hi'⟩
        exact (List.nodup_cons.mp (List.nodup_append.mp hdistinct).2.1).1 hmem
      obtain ⟨j₀, hj₀, hsubject⟩ := hj.job_of_mem hd hdi
      cases hi.symm.trans hj₀
      have hbefore : d.settlement? r.pool = none := by
        rw [hj.settlement?_of_job hd hdi hi, Job.settlement?, hsubject]
        cases hs : j.stage <;> simp_all [Job.isOver, Dispatched.ofJob, Subject.task?]
      have hafter : d.settlement? p' = j'.settlement? := by
        unfold Dispatched.job? at hdi
        unfold Dispatched.settlement?
        split at hdi <;> cases hdi
        simp [*, Job.settlement?, Subject.task?]
      rw [List.filterMap_append, List.filterMap_append, hsame hl₁, List.filterMap_cons,
        List.filterMap_cons_none hbefore, hsame hl₂, hafter]
      cases j'.settlement? with
      | none => simp
      | some s =>
          simp only [Option.toList_some]
          exact List.perm_middle.trans (List.perm_append_singleton s _).symm

/-- A job that is refused leaves its dispatcher with a refusal to hear. -/
theorem unheard_of_change (hj : JobsAccount w r ds) (hi : r.pool.jobs[i]? = some j)
    (hnot : j.isOver = false) (hcontext : j'.context = j.context)
    (hwait : ∀ why, j'.stage = .refused why → j.isWaiting = true)
    (hjobs : ∀ k, p'.jobs[k]? = if i = k then some j' else r.pool.jobs[k]?) :
    WorkerRun.unheard { r with pool := p' } = r.unheard ++ j'.refusal?.toList := by
  have hold : j.refusal? = none := by
    cases hs : j.stage <;> simp_all [Job.refusal?, Job.isOver]
  have hnone (hd : r.dispatchers.get .tasks ≠ .submitting i) : j'.refusal? = none := by
    unfold Job.refusal?
    split
    · rename_i why t hs ht
      have hfor : j.isForTask = true := by simp [Job.isForTask, ← hcontext, ht, Subject.task?]
      exact absurd (hj.waiting hi (hwait why hs) hfor) hd
    · rfl
  cases hd : r.dispatchers.get .tasks with
  | submitting k =>
      by_cases hik : i = k
      · subst hik
        simp [WorkerRun.unheard, hd, hjobs, hi, hold]
      · have hne : r.dispatchers.get .tasks ≠ .submitting i := by simp [hd, Ne.symm hik]
        simp [WorkerRun.unheard, hd, hjobs, hik, hnone hne]
  | idle | ended =>
      have hne : r.dispatchers.get .tasks ≠ .submitting i := by simp [hd]
      simp [WorkerRun.unheard, hd, hnone hne]

end JobsAccount

/-- The books are balanced: what was attempted, what is to be settled and what is still unheard is
what the dispatched tasks call for, each once. -/
def Balanced (r : WorkerRun) (ds : List Dispatched) (settled : List Settlement) : Prop :=
  (settled ++ r.settlements ++ r.unheard).Perm (ds.filterMap (·.settlement? r.pool))

namespace Balanced

variable {w : Worker} {now : Instant} {r r' : WorkerRun} {ds new : List Dispatched}
  {settled : List Settlement} {line : Line} {i : Nat} {j : Job Work}

/-- One more thing to settle is one more that is called for. -/
theorem settle_iff {s : Settlement} : Balanced (r.settle s) ds settled ↔
    (settled ++ r.settlements ++ r.unheard ++ [s]).Perm
      (ds.filterMap (·.settlement? r.pool)) := by
  have hperm : (settled ++ (r.settle s).settlements ++ (r.settle s).unheard).Perm
      (settled ++ r.settlements ++ r.unheard ++ [s]) := by
    change (settled ++ (r.settlements ++ [s]) ++ r.unheard).Perm _
    simp only [List.append_assoc]
    exact (List.perm_append_comm.append_left _).append_left _
  exact ⟨hperm.symm.trans, hperm.trans⟩

theorem inner {m pool} (hb : Balanced r ds settled) (hj : JobsAccount w r ds)
    (hm : m.isInner = true) (hp : Pool.Step now r.pool m pool) :
    Balanced { r with pool } ds settled := by
  obtain ⟨i, j, j', hi, hjobs, hcontext, hnot, hended, hwait⟩ := hp.exists_change hm
  have hrefusal : j'.settlement? = j'.refusal? := by
    unfold Job.settlement? Job.refusal? Dispatched.ofJob
    cases hs : j'.stage with
    | ended result => exact absurd hs (hended result)
    | refused why => cases j'.context.subject <;> rfl
    | waiting | queued | running => cases j'.context.subject <;> rfl
  have hperm := hj.perm_settlements hi hnot hcontext hjobs
  rw [hrefusal] at hperm
  unfold Balanced
  rw [hj.unheard_of_change hi hnot hcontext hwait hjobs, ← List.append_assoc]
  exact (hb.append_right _).trans hperm.symm

/-- A task whose callback ended is to be settled by its result. -/
theorem finished {since late failure} (hb : Balanced r ds settled) (hj : JobsAccount w r ds)
    (hi : r.pool.jobs[i]? = some j) (hs : j.stage = .running since late) :
    Balanced
      ({ r with pool := r.pool.setStage i (.ended (j.resultOf late failure)) }.settleJob j
        (.ofResult · (j.resultOf late failure))) ds settled := by
  let j' : Job Work := { j with stage := .ended (j.resultOf late failure) }
  have hnot : j.isOver = false := by simp [Job.isOver, hs]
  have hjobs (k : Nat) : (r.pool.setStage i (.ended (j.resultOf late failure))).jobs[k]? =
      if i = k then some j' else r.pool.jobs[k]? := Pool.getElem?_setStage hi
  have hcontext : j'.context = j.context := rfl
  have hperm := hj.perm_settlements hi hnot hcontext hjobs
  have hunheard := hj.unheard_of_change hi hnot hcontext (by simp [j']) hjobs
  have hrefusal : j'.refusal? = none := rfl
  rw [hrefusal, Option.toList_none, List.append_nil] at hunheard
  unfold WorkerRun.settleJob
  cases hsubject : j.context.subject with
  | ticker t =>
      have hnone : j'.settlement? = none := by simp [Job.settlement?, j', hsubject, Subject.task?]
      rw [hnone, Option.toList_none, List.append_nil] at hperm
      unfold Balanced
      rw [hunheard]
      exact hb.trans hperm.symm
  | task t =>
      have hsome : j'.settlement? = some (.ofResult t.id (j.resultOf late failure)) := by
        simp [Job.settlement?, j', hsubject, Subject.task?, Dispatched.ofJob]
      rw [hsome, Option.toList_some] at hperm
      rw [settle_iff]
      change (settled ++ r.settlements ++ WorkerRun.unheard _ ++ _).Perm _
      rw [hunheard]
      exact (hb.append_right _).trans hperm.symm

theorem setDispatcher {next : Dispatcher} (hb : Balanced r ds settled)
    (hnext : ∀ i, next ≠ .submitting i) (hquiet : line = .tasks → r.unheard = []) :
    Balanced (r.setDispatcher line next) ds settled := by
  unfold Balanced at hb ⊢
  by_cases hline : line = .tasks
  · subst hline
    rw [hquiet rfl] at hb
    rw [WorkerRun.unheard_setDispatcher hnext]
    exact hb
  · rw [WorkerRun.unheard_setDispatcher_of_ne hline]
    exact hb

/-- A task whose refusal is heard is to be given back. -/
theorem refused {why} (hb : Balanced r ds settled) (hj : JobsAccount w r ds)
    (hd : r.dispatchers.get line = .submitting i) (hi : r.pool.jobs[i]? = some j)
    (hs : j.stage = .refused why) :
    Balanced ((r.settleJob j .giveBack).setDispatcher line .idle) ds settled := by
  obtain ⟨j₀, hj₀, hfor⟩ := hj.busy hd
  cases hi.symm.trans hj₀
  unfold WorkerRun.settleJob
  cases hsubject : j.context.subject with
  | ticker t =>
      have hline : line ≠ .tasks := by
        intro hl
        simpa [Job.isForTask, hsubject, Subject.task?] using hfor.mpr hl
      exact hb.setDispatcher (by simp) fun hl => absurd hl hline
  | task t =>
      have hline : line = .tasks := hfor.mp (by simp [Job.isForTask, hsubject, Subject.task?])
      subst hline
      have hunheard : r.unheard = [.giveBack t.id] := by
        simp [WorkerRun.unheard, hd, hi, Job.refusal?, hs, hsubject]
      unfold Balanced at hb ⊢
      rw [hunheard] at hb
      rw [WorkerRun.unheard_setDispatcher (by simp), List.append_nil]
      change (settled ++ (r.settlements ++ [_])).Perm _
      rw [← List.append_assoc]
      exact hb

/-- A task that is submitted has nothing to settle yet, or a refusal to be heard. -/
theorem submitTask {s : Submission} {d : Dispatched} (hb : Balanced r ds settled)
    (hj : JobsAccount w r ds) (hidle : r.dispatchers.get .tasks = .idle)
    (hs : WorkerRun.Submits now r .tasks s r') (hsubject : s.subject = .task d.task)
    (hout : d.outcome = .submitted r.pool.jobs.length) :
    Balanced r' (ds ++ [d]) settled := by
  obtain ⟨j₀, hj₀, hstage, rfl⟩ := JobsAccount.exists_of_submits hs
  have hquiet : r.unheard = [] := by simp [WorkerRun.unheard, hidle]
  unfold Balanced at hb ⊢
  rw [hquiet, List.append_nil] at hb
  rw [List.filterMap_append, hj.settlements_append rfl]
  have hnew : [d].filterMap (·.settlement? { r.pool with jobs := r.pool.jobs ++ [j₀] }) =
      j₀.refusal?.toList := by
    cases hclosed : r.pool.closed <;>
      simp [Dispatched.settlement?, hout, Dispatched.ofJob, Job.refusal?, hj₀, hsubject, hstage,
        Pool.firstStage, hclosed]
  have hunheard : (WorkerRun.setDispatcher
      { r with pool := { r.pool with jobs := r.pool.jobs ++ [j₀] } } .tasks
      (.submitting r.pool.jobs.length)).unheard = j₀.refusal?.toList := by
    simp [WorkerRun.unheard, WorkerRun.setDispatcher]
  change (_ ++ _ ++ WorkerRun.unheard (WorkerRun.setDispatcher
    { r with pool := { r.pool with jobs := r.pool.jobs ++ [j₀] } } _ _)).Perm (_ ++ [d].filterMap _)
  rw [hunheard]
  exact (hb.append_right _).trans (.of_eq (by rw [← hnew]; rfl))

/-- What another dispatcher submits is no task. -/
theorem submitOther {s : Submission} (hb : Balanced r ds settled) (hj : JobsAccount w r ds)
    (hline : line ≠ .tasks) (hs : WorkerRun.Submits now r line s r') :
    Balanced r' ds settled := by
  obtain ⟨j₀, -, -, rfl⟩ := JobsAccount.exists_of_submits hs
  let p' : Pool Work := { r.pool with jobs := r.pool.jobs ++ [j₀] }
  have hunheard : WorkerRun.unheard { r with pool := p' } = r.unheard := by
    unfold WorkerRun.unheard
    cases hd : r.dispatchers.get .tasks with
    | submitting i =>
        obtain ⟨j, hi, -⟩ := hj.busy hd
        simp [p', List.getElem?_append_left (List.getElem?_eq_some_iff.mp hi).1]
    | idle | ended => rfl
  have hpool : Balanced { r with pool := p' } ds settled := by
    unfold Balanced at hb ⊢
    rw [hunheard, hj.settlements_append rfl]
    exact hb
  unfold Balanced at hpool ⊢
  rw [WorkerRun.unheard_setDispatcher_of_ne hline]
  exact hpool

end Balanced

end TaskQueue
