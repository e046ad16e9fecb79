import Mathlib.Data.List.Find
import TaskQueue.Proofs.Pool.Settling

/-!
# Turnouts

The way a job turns out is how its callback ends and how its result callback does. A pool sees the
first only as the result of the job, and the second not at all: whatever a crew can do at an instant,
the crew in which one job turns out another way can do too, and what comes of it differs in that job
alone.
-/

namespace TaskQueue

/-! ## Lists with one element changed -/

section

variable {α β : Type} {l l' : List α} {g : α → α} {i k : Nat}

/-- What does not see a change sees the same list when one element is changed. -/
theorem map_modify_of_blind {f : α → β} (h : ∀ a, f (g a) = f a) :
    (l.modify i g).map f = l.map f := by
  refine List.ext_getElem? fun k => ?_
  simp only [List.getElem?_map, List.getElem?_modify]
  cases l[k]? with
  | none => rfl
  | some a => by_cases hik : i = k <;> simp [hik, h]

theorem countP_modify_of_blind {q : α → Bool} (h : ∀ a, q (g a) = q a) :
    (l.modify i g).countP q = l.countP q := by
  simpa [List.countP_map] using congrArg (List.countP id) (map_modify_of_blind (l := l) (i := i) h)

theorem findIdx?_modify_of_blind {q : α → Bool} (h : ∀ a, q (g a) = q a) :
    (l.modify i g).findIdx? q = l.findIdx? q := by
  simpa [List.findIdx?_map] using
    congrArg (List.findIdx? id) (map_modify_of_blind (l := l) (i := i) h)

theorem all_modify_of_blind {q : α → Bool} (h : ∀ a, q (g a) = q a) :
    (l.modify i g).all q = l.all q := by
  simpa [List.all_map] using congrArg (List.all · id) (map_modify_of_blind (l := l) (i := i) h)

theorem filterMap_modify_of_blind {f : α → Option β} (h : ∀ a, f (g a) = f a) :
    (l.modify i g).filterMap f = l.filterMap f := by
  simpa [List.filterMap_map] using
    congrArg (List.filterMap id) (map_modify_of_blind (l := l) (i := i) h)

theorem any_getElem?_modify_of_blind {q : α → Bool} (h : ∀ a, q (g a) = q a) :
    ((l.modify i g)[k]?).any q = (l[k]?).any q := by
  rw [List.getElem?_modify]
  cases l[k]? with
  | none => rfl
  | some a => by_cases hik : i = k <;> simp [hik, h]

theorem map_modify_of_comm {f : α → α} (h : ∀ a, f (g a) = g (f a)) :
    (l.modify i g).map f = (l.map f).modify i g := by
  refine List.ext_getElem? fun k => ?_
  simp only [List.getElem?_map, List.getElem?_modify]
  cases l[k]? with
  | none => rfl
  | some a => by_cases hik : i = k <;> simp [hik, h]

theorem zip_modify {m : List β} {g' : β → β} :
    (l.modify i g).zip (m.modify i g') = (l.zip m).modify i (Prod.map g g') := by
  refine List.ext_getElem? fun k => ?_
  simp only [List.getElem?_modify, List.zip, List.getElem?_zipWith]
  cases l[k]? with
  | none => rfl
  | some a => cases m[k]? <;> by_cases hik : i = k <;> simp [hik]

theorem modify_append_of_lt (hi : i < l.length) : (l ++ l').modify i g = l.modify i g ++ l' := by
  refine List.ext_getElem? fun k => ?_
  rw [List.getElem?_modify, List.getElem?_append, List.getElem?_append, List.length_modify,
    List.getElem?_modify]
  by_cases hk : k < l.length
  · simp [hk]
  · have hik : i ≠ k := by omega
    simp [hk, hik]

/-- Two changes can be made in either order if they can at the place of the second. -/
theorem modify_comm_of_get {f f' : α → α} {a : α} (ha : l[k]? = some a)
    (h : f' (if i = k then g a else a) = if i = k then g (f a) else f a) :
    (l.modify i g).modify k f' = (l.modify k f).modify i g := by
  refine List.ext_getElem? fun n => ?_
  simp only [List.getElem?_modify]
  by_cases hk : k = n
  · subst hk
    by_cases hik : i = k <;> simpa [hik, ha] using h
  · by_cases hin : i = n <;> simp [hk, hin]

theorem modify_comm_of_forall {f : α → α} (h : ∀ a, f (g a) = g (f a)) :
    (l.modify i g).modify k f = (l.modify k f).modify i g := by
  by_cases hik : i = k
  · subst hik
    rw [List.modify_modify_eq, List.modify_modify_eq]
    exact congrArg _ (funext h)
  · exact List.modify_modify_ne _ _ _ hik

end

/-! ## Turnouts -/

/-- How a job turns out: how its callback ends, and how its result callback does. -/
structure Turnout where
  ending : CallbackEnd
  onReport : ReportEnd

namespace Work

def withEnding (e : CallbackEnd) : Work → Work
  | .callback c payload => .callback { c with ending := e } payload
  | .undecodable reason => .undecodable reason
  | .external => .external

/-- Why a run fails on its own account, if it does. -/
def failure? : Work → Option Failure
  | .callback c _ => c.ending.failure?
  | .undecodable reason => some (.invalidPayload reason)
  | .external => none

end Work

def Submission.withTurnout (o : Turnout) (s : Submission) : Submission :=
  { s with work := s.work.withEnding o.ending, onReport := o.onReport }

/-- A step of a client in which the job that is submitted turns out another way. -/
def ClientStep.withTurnout (o : Turnout) : ClientStep → ClientStep
  | .submit s spawned => .submit (s.withTurnout o) spawned
  | .sleep millis => .sleep millis
  | .cancel => .cancel
  | .close => .close

/-- The result of a run with another failure of its own. -/
def RunResult.exchange (old new : Option Failure) (r : RunResult) : RunResult :=
  ⟨new.toList ++ r.failures.drop old.toList.length⟩

def Stage.exchange (old new : Option Failure) : Stage → Stage
  | .ended result => .ended (result.exchange old new)
  | .waiting => .waiting
  | .refused why => .refused why
  | .queued => .queued
  | .running since late => .running since late

namespace Job

def withEnding (e : CallbackEnd) (j : Job Work) : Job Work :=
  { j with
    work := j.work.withEnding e
    stage := j.stage.exchange j.work.failure? (j.work.withEnding e).failure? }

variable {e : CallbackEnd} {j : Job Work}

@[simp] theorem isWaiting_withEnding : (j.withEnding e).isWaiting = j.isWaiting := by
  unfold withEnding isWaiting
  cases j.stage <;> rfl

@[simp] theorem isQueued_withEnding : (j.withEnding e).isQueued = j.isQueued := by
  unfold withEnding isQueued
  cases j.stage <;> rfl

@[simp] theorem isRunning_withEnding : (j.withEnding e).isRunning = j.isRunning := by
  unfold withEnding isRunning
  cases j.stage <;> rfl

@[simp] theorem isOver_withEnding : (j.withEnding e).isOver = j.isOver := by
  unfold withEnding isOver
  cases j.stage <;> rfl

@[simp] theorem due?_withEnding : (j.withEnding e).due? = j.due? := by
  unfold withEnding due?
  cases j.stage <;> rfl

/-- A job that ends another way ends with the result that it has then. -/
theorem withEnding_ended {late : Bool} :
    withEnding e { j with stage := .ended (j.resultOf late j.work.failure?) } =
      { j.withEnding e with
        stage := .ended (j.resultOf late (j.work.withEnding e).failure?) } := by
  simp [withEnding, Stage.exchange, RunResult.exchange, resultOf]

end Job

namespace Pool

variable {now : Instant} {p : Pool Work} {m : Move Work} {i k : Nat} {e : CallbackEnd}

/-- The pool in which the callback of one job ends another way. -/
def withEnding (i : Nat) (e : CallbackEnd) (p : Pool Work) : Pool Work :=
  p.modify i (Job.withEnding e)

/-- A move that ends a callback gives the failure that the work of the job calls for. -/
def Honest (p : Pool Work) : Move Work → Prop
  | .finish k failure => ∀ j, p.jobs[k]? = some j → failure = j.work.failure?
  | _ => True

/-- The move that is made instead when the callback of one job ends another way. -/
def exchange (p : Pool Work) (i : Nat) (e : CallbackEnd) : Move Work → Move Work
  | .finish k failure =>
    .finish k (if i = k then (p.jobs[k]?).bind (·.work.withEnding e |>.failure?) else failure)
  | m => m

@[simp] theorem size_withEnding : (p.withEnding i e).size = p.size := rfl

@[simp] theorem cancelled_withEnding : (p.withEnding i e).cancelled = p.cancelled := rfl

theorem firstStage_withEnding : (p.withEnding i e).firstStage = p.firstStage := rfl

@[simp] theorem length_withEnding : (p.withEnding i e).jobs.length = p.jobs.length :=
  length_modify _

@[simp] theorem indices_withEnding : (p.withEnding i e).indices = p.indices := by
  simp [indices]

@[simp] theorem running_withEnding : (p.withEnding i e).running = p.running :=
  countP_modify_of_blind fun _ => Job.isRunning_withEnding

@[simp] theorem queued_withEnding : (p.withEnding i e).queued = p.queued :=
  countP_modify_of_blind fun _ => Job.isQueued_withEnding

@[simp] theorem isDrained_withEnding : (p.withEnding i e).isDrained = p.isDrained :=
  all_modify_of_blind fun _ => Job.isOver_withEnding

@[simp] theorem nextDue?_withEnding : (p.withEnding i e).nextDue? = p.nextDue? :=
  congrArg List.min? (filterMap_modify_of_blind fun _ => Job.due?_withEnding)

theorem getElem?_withEnding : (p.withEnding i e).jobs[k]? =
    (p.jobs[k]?).map fun j => if i = k then j.withEnding e else j :=
  List.getElem?_modify ..

theorem modify_withEnding {f : Job Work → Job Work}
    (h : ∀ j, f (j.withEnding e) = (f j).withEnding e) :
    (p.withEnding i e).modify k f = (p.modify k f).withEnding i e := by
  simp only [withEnding, modify, modify_comm_of_forall h]

theorem setStage_withEnding (stage : Stage) (h : ∀ result, stage ≠ .ended result) :
    (p.withEnding i e).setStage k stage = (p.setStage k stage).withEnding i e := by
  refine modify_withEnding fun j => ?_
  unfold Job.withEnding
  cases stage with
  | ended result => exact absurd rfl (h result)
  | waiting | refused | queued | running => rfl

theorem step?_expire_withEnding : (p.withEnding i e).step? now (.expire k) =
    (p.step? now (.expire k)).map (·.withEnding i e) := by
  have hstop (since : Instant) := modify_withEnding (p := p) (i := i) (k := k) (e := e)
    (f := fun j => { j with cancelled := true, stage := .running since true }) fun _ => rfl
  simp only [step?, getElem?_withEnding]
  cases hj : p.jobs[k]? with
  | none => rfl
  | some j =>
      obtain ⟨work, context, limit, cancelled, stage⟩ := j
      obtain rfl | hik := eq_or_ne i k
      · cases stage with
        | waiting | refused | queued | ended => simp [Job.withEnding, Stage.exchange]
        | running since late =>
            cases late <;> cases limit <;>
              simp [Job.withEnding, Stage.exchange, ← hstop, apply_ite (Option.map _)]
      · cases stage with
        | waiting | refused | queued | ended => simp [hik]
        | running since late =>
            cases late <;> cases limit <;> simp [hik, ← hstop, apply_ite (Option.map _)]

/-- A callback that ends another way ends its job at the same move. -/
theorem step?_finish_withEnding {failure : Option Failure} (hm : p.Honest (.finish k failure)) :
    (p.withEnding i e).step? now (p.exchange i e (.finish k failure)) =
      (p.step? now (.finish k failure)).map (·.withEnding i e) := by
  simp only [exchange, step?, getElem?_withEnding]
  cases hj : p.jobs[k]? with
  | none => rfl
  | some j =>
      have hcomm {f f' : Job Work → Job Work}
          (h : f' (if i = k then j.withEnding e else j) =
            if i = k then (f j).withEnding e else f j) :
          (p.withEnding i e).modify k f' = (p.modify k f).withEnding i e :=
        congrArg (fun jobs => { p with jobs }) (modify_comm_of_get hj h)
      cases hm j hj
      obtain rfl | hik := eq_or_ne i k
      · cases hs : j.stage with
        | waiting | refused | queued | ended => simp [Job.withEnding, Stage.exchange, hs]
        | running since late =>
            have hstage : (j.withEnding e).stage = .running since late := by
              simp [Job.withEnding, Stage.exchange, hs]
            simp only [Option.map_some, if_true, hstage, hs, Option.bind_some, setStage]
            refine congrArg some (hcomm ?_)
            rw [if_pos rfl, if_pos rfl]
            exact Job.withEnding_ended.symm
      · cases hs : j.stage with
        | waiting | refused | queued | ended => simp [hik, hs]
        | running since late =>
            simp only [Option.map_some, if_neg hik, hs, setStage]
            refine congrArg some (hcomm ?_)
            simp only [if_neg hik]

theorem step?_withEnding (hm : p.Honest m) (hi : i < p.jobs.length) :
    (p.withEnding i e).step? now (p.exchange i e m) =
      (p.step? now m).map (·.withEnding i e) := by
  cases m with
  | call worker subject limit work =>
      simp only [exchange, step?, Option.map_map]
      congr 1
      funext context
      rw [firstStage_withEnding]
      simp [withEnding, modify, modify_append_of_lt hi]
  | refuse k =>
      have hany : ((p.withEnding i e).jobs[k]?).any Job.isWaiting = (p.jobs[k]?).any Job.isWaiting :=
        any_getElem?_modify_of_blind fun _ => Job.isWaiting_withEnding
      simp only [exchange, step?, hany, cancelled_withEnding,
        setStage_withEnding (.refused .cancelled) (by simp)]
      split <;> rfl
  | enqueue =>
      have hfind : (p.withEnding i e).jobs.findIdx? Job.isWaiting = p.jobs.findIdx? Job.isWaiting :=
        findIdx?_modify_of_blind fun _ => Job.isWaiting_withEnding
      simp only [exchange, step?, hfind, cancelled_withEnding, queued_withEnding, size_withEnding,
        setStage_withEnding .queued (by simp)]
      split
      · rw [Option.map_map]; rfl
      · rfl
  | start =>
      have hfind : (p.withEnding i e).jobs.findIdx? Job.isQueued = p.jobs.findIdx? Job.isQueued :=
        findIdx?_modify_of_blind fun _ => Job.isQueued_withEnding
      simp only [exchange, step?, hfind, running_withEnding, size_withEnding,
        setStage_withEnding (.running now false) (by simp)]
      split
      · rw [Option.map_map]; rfl
      · rfl
  | expire k => exact step?_expire_withEnding
  | finish k failure => exact step?_finish_withEnding hm
  | cancel => rfl
  | close => rfl

end Pool

def JobRecord.withReport (e : ReportEnd) (r : JobRecord) : JobRecord :=
  { r with onReport := e, reports := r.reports.map fun _ => e }

/-- When a job was answered, began, was told to stop and ended, and how often it was reported. -/
def JobRecord.course (r : JobRecord) :
    Option Instant × Option Sighting × Option Instant × Option Sighting × Nat :=
  (r.answered, r.started, r.stopped, r.finished, r.reports.length)

namespace Crew

variable {now : Instant} {c c' : Crew} {m : Pool.Move Work} {i k : Nat} {o : Turnout}

/-- The crew in which one job turns out another way. -/
def withTurnout (i : Nat) (o : Turnout) (c : Crew) : Crew where
  pool := c.pool.withEnding i o.ending
  records := c.records.modify i (JobRecord.withReport o.onReport)

@[simp] theorem pool_withTurnout : (c.withTurnout i o).pool = c.pool.withEnding i o.ending := rfl

theorem sighting_withTurnout : (c.withTurnout i o).sighting now k = c.sighting now k := by
  refine congrArg (Sighting.mk now) ?_
  exact any_getElem?_modify_of_blind fun _ => rfl

theorem note_withTurnout {f : JobRecord → JobRecord}
    (h : ∀ r, f (r.withReport o.onReport) = (f r).withReport o.onReport) :
    (c.withTurnout i o).note k f = (c.note k f).withTurnout i o := by
  simp only [withTurnout, note, modify_comm_of_forall h]

theorem progress_withTurnout {j : Job Work} :
    (c.withTurnout i o).progress now (if i = k then j.withEnding o.ending else j) =
      c.progress now j := by
  funext r
  split <;> rfl

theorem pollJob_withTurnout : (c.withTurnout i o).pollJob now k =
    (c.pollJob now k).withTurnout i o := by
  unfold pollJob
  rw [pool_withTurnout, Pool.getElem?_withEnding]
  cases hj : c.pool.jobs[k]? with
  | none => rfl
  | some j =>
      have hrunning : (if i = k then j.withEnding o.ending else j).isRunning = j.isRunning := by
        split <;> simp
      simp only [Option.map_some, hrunning, progress_withTurnout]
      split
      · exact note_withTurnout fun r => rfl
      · rfl

theorem pollAll_withTurnout : (c.withTurnout i o).pollAll now = (c.pollAll now).withTurnout i o := by
  unfold pollAll
  rw [pool_withTurnout, Pool.indices_withEnding]
  exact List.foldl_hom _ fun c k => pollJob_withTurnout

theorem noteStart_withTurnout : (c.withTurnout i o).noteStart now k =
    (c.noteStart now k).withTurnout i o := by
  unfold noteStart
  rw [pool_withTurnout, Pool.getElem?_withEnding]
  cases hj : c.pool.jobs[k]? with
  | none => rfl
  | some j =>
      obtain ⟨work, context, limit, cancelled, stage⟩ := j
      simp only [Option.map_some, sighting_withTurnout]
      cases work with
      | undecodable | external =>
          obtain rfl | hik := eq_or_ne i k <;> simp [*, Job.withEnding, Work.withEnding]
      | callback callback payload =>
          obtain rfl | hik := eq_or_ne i k
          · simp only [if_true, Job.withEnding, Work.withEnding]
            exact note_withTurnout fun r => rfl
          · simp only [if_neg hik]
            exact note_withTurnout fun r => rfl

theorem noteFinish_withTurnout : (c.withTurnout i o).noteFinish now k =
    (c.noteFinish now k).withTurnout i o := by
  unfold noteFinish
  rw [sighting_withTurnout]
  exact note_withTurnout fun r => by simp [JobRecord.report, JobRecord.withReport]

/-- The crew has that many jobs at least, and a record of every job. -/
structure Has (c : Crew) (n : Nat) : Prop where
  recorded : c.IsRecorded
  le : n ≤ c.pool.jobs.length

namespace Has

variable {n : Nat}

theorem lt_records (hc : c.Has (i + 1)) : i < c.records.length := hc.recorded ▸ hc.le

theorem step (hc : c.Has n) (h : c.step? now m = some c') : c'.Has n :=
  ⟨hc.recorded.step h, hc.le.trans (Pool.step?_sound (step?_pool h)).length_le⟩

theorem withPool (hc : c.Has n) (hpool : c'.pool = c.pool)
    (hrecords : c'.records.length = c.records.length) : c'.Has n :=
  ⟨by rw [IsRecorded, hpool, hrecords, hc.recorded], hpool ▸ hc.le⟩

theorem pollAll (hc : c.Has n) : (c.pollAll now).Has n := by
  unfold Crew.pollAll
  refine List.foldlRecOn (motive := fun c : Crew => c.Has n) _ _ hc fun c hc k _ => ?_
  exact hc.withPool (pollJob_pool k) length_pollJob

end Has

/-- The record of a job does not depend on how another one turns out. -/
theorem noteMove_withTurnout (hc : c.Has (i + 1)) :
    ((c.withTurnout i o).noteMove now (c.pool.exchange i o.ending m)).records =
      ((c.noteMove now m).withTurnout i o).records := by
  have hfind {q : Job Work → Bool} (hq : ∀ j, q (j.withEnding o.ending) = q j) :
      (c.withTurnout i o).pool.jobs.findIdx? q = c.pool.jobs.findIdx? q :=
    findIdx?_modify_of_blind hq
  cases m with
  | call => exact (modify_append_of_lt hc.lt_records).symm
  | refuse k => exact congrArg records (note_withTurnout fun r => rfl)
  | enqueue =>
      simp only [noteMove, Pool.exchange, hfind fun _ => Job.isWaiting_withEnding]
      cases c.pool.jobs.findIdx? Job.isWaiting with
      | none => rfl
      | some k => exact congrArg records (note_withTurnout fun r => rfl)
  | start =>
      simp only [noteMove, Pool.exchange, hfind fun _ => Job.isQueued_withEnding]
      cases c.pool.jobs.findIdx? Job.isQueued with
      | none => rfl
      | some k => exact congrArg records noteStart_withTurnout
  | finish k failure =>
      simp only [noteMove, Pool.exchange, pollJob_withTurnout, noteFinish_withTurnout]
  | expire k => exact congrArg records (note_withTurnout fun r => rfl)
  | cancel => exact map_modify_of_comm fun r => rfl
  | close => rfl

/-- What a crew can do, it can do when one job turns out another way. -/
theorem step?_withTurnout (hm : c.pool.Honest m) (hc : c.Has (i + 1)) :
    (c.withTurnout i o).step? now (c.pool.exchange i o.ending m) =
      (c.step? now m).map (·.withTurnout i o) := by
  simp only [step?, pool_withTurnout, Pool.step?_withEnding hm hc.le, Option.map_map]
  refine congrArg (Option.map · _) (funext fun pool => ?_)
  exact congrArg (Crew.mk _) (noteMove_withTurnout hc)

/-! ### Calls -/

theorem call?_withTurnout {job : Submission} (hc : c.Has (i + 1)) :
    (c.withTurnout i o).call? now job = (c.call? now job).map (·.withTurnout i o) := by
  let m : Pool.Move Work := .call job.worker job.subject job.limit job.work
  have hstep : (c.withTurnout i o).step? now m = (c.step? now m).map (·.withTurnout i o) :=
    step?_withTurnout (m := m) trivial hc
  simp only [call?, m, hstep, Option.map_map, pool_withTurnout, Pool.length_withEnding]
  refine congrArg (Option.map · _) (funext fun called => ?_)
  exact congrArg (Crew.mk _) (List.modify_modify_ne _ _ _ (Nat.ne_of_lt hc.le))

theorem Has.call {n : Nat} {job : Submission} (hc : c.Has n) (h : c.call? now job = some c') :
    c'.Has n := by
  obtain ⟨called, hs, rfl⟩ := Option.map_eq_some_iff.mp h
  exact (hc.step hs).withPool rfl (length_note _)

/-- Whether the run of a job has come to its end. -/
def isDone (c : Crew) (now : Instant) (j : Job Work) (r : JobRecord) : Bool :=
  match j.work with
  | .callback .. => (c.progress now j r).isDone
  | .undecodable _ => true
  | .external => false

theorem finishing?_eq : c.finishing? now k =
    (c.pool.jobs[k]?).bind fun j => (c.records[k]?).bind fun r =>
      if j.isRunning && c.isDone now j r then some (.finish k j.work.failure?) else none := by
  unfold finishing?
  cases c.pool.jobs[k]? with
  | none => rfl
  | some j =>
      cases c.records[k]? with
      | none => rfl
      | some r =>
          cases hrunning : j.isRunning <;> cases hwork : j.work <;>
            simp [isDone, hrunning, hwork, Work.failure?]

theorem isDone_withTurnout {j : Job Work} {r : JobRecord} :
    (c.withTurnout i o).isDone now (if i = k then j.withEnding o.ending else j)
      (if i = k then r.withReport o.onReport else r) = c.isDone now j r := by
  unfold isDone
  rw [progress_withTurnout]
  obtain rfl | hik := eq_or_ne i k
  · rw [if_pos rfl, if_pos rfl]
    cases hwork : j.work with
    | callback => simp [Job.withEnding, Work.withEnding, hwork, progress, JobRecord.withReport]
    | undecodable | external => simp [Job.withEnding, Work.withEnding, hwork]
  · simp [hik]

theorem finishing?_withTurnout : (c.withTurnout i o).finishing? now k =
    (c.finishing? now k).map (c.pool.exchange i o.ending) := by
  have hrecord : (c.withTurnout i o).records[k]? =
      (c.records[k]?).map fun r => if i = k then r.withReport o.onReport else r :=
    List.getElem?_modify ..
  rw [finishing?_eq, finishing?_eq, pool_withTurnout, Pool.getElem?_withEnding, hrecord]
  cases hj : c.pool.jobs[k]? with
  | none => rfl
  | some j =>
      cases c.records[k]? with
      | none => rfl
      | some r =>
          have hrunning : (if i = k then j.withEnding o.ending else j).isRunning = j.isRunning := by
            split <;> simp
          simp only [Option.map_some, Option.bind_some, hrunning, isDone_withTurnout]
          split
          · obtain rfl | hik := eq_or_ne i k
            · simp [Pool.exchange, hj, Job.withEnding]
            · simp [Pool.exchange, hik]
          · rfl

/-- A crew ends a callback as the work of the job says. -/
theorem honest_of_mem_ownMoves (hm : m ∈ c.ownMoves now) : c.pool.Honest m := by
  simp only [ownMoves, List.mem_append, List.mem_map, List.mem_filterMap, List.mem_cons,
    List.not_mem_nil, or_false] at hm
  rcases hm with ((⟨_, -, rfl⟩ | ⟨k, -, hf⟩) | ⟨_, -, rfl⟩) | rfl | rfl
  case inl.inl.inr =>
    rw [finishing?_eq] at hf
    obtain ⟨j, hj, hf⟩ := Option.bind_eq_some_iff.mp hf
    obtain ⟨r, -, hf⟩ := Option.bind_eq_some_iff.mp hf
    split at hf <;> cases hf
    intro j' hj'
    cases hj.symm.trans hj'
    rfl
  all_goals trivial

theorem ownMoves_withTurnout : (c.withTurnout i o).ownMoves now =
    (c.ownMoves now).map (c.pool.exchange i o.ending) := by
  simp only [ownMoves, pool_withTurnout, Pool.indices_withEnding, List.map_append, List.map_map,
    List.map_filterMap, finishing?_withTurnout]
  rfl

theorem next?_withTurnout (hc : c.Has (i + 1)) : (c.withTurnout i o).next? now =
    (c.next? now).map (c.pool.exchange i o.ending) := by
  unfold next?
  rw [ownMoves_withTurnout, List.find?_map]
  refine congrArg _ (List.find?_congr fun m hm => ?_)
  simp [Pool.canMove, Pool.step?_withEnding (honest_of_mem_ownMoves hm) hc.le]

theorem settleFor_withTurnout {fuel : Nat} (hc : c.Has (i + 1)) :
    settleFor now fuel (c.withTurnout i o) = (settleFor now fuel c).withTurnout i o := by
  induction fuel generalizing c with
  | zero => rfl
  | succ fuel ih =>
      have hnext : ((c.withTurnout i o).next? now).bind ((c.withTurnout i o).step? now) =
          ((c.next? now).bind (c.step? now)).map (·.withTurnout i o) := by
        rw [next?_withTurnout hc]
        cases hm : c.next? now with
        | none => rfl
        | some m => exact step?_withTurnout (honest_of_mem_ownMoves (List.mem_of_find?_eq_some hm)) hc
      simp only [settleFor, hnext]
      cases hs : (c.next? now).bind (c.step? now) with
      | none => exact pollAll_withTurnout
      | some c' =>
          obtain ⟨m, -, hs⟩ := Option.bind_eq_some_iff.mp hs
          exact ih (hc.step hs)

theorem settle_withTurnout (hc : c.Has (i + 1)) :
    (c.withTurnout i o).settle now = (c.settle now).withTurnout i o := by
  unfold settle
  rw [pool_withTurnout, Pool.length_withEnding]
  exact settleFor_withTurnout hc

theorem wakes_withTurnout : (c.withTurnout i o).wakes = c.wakes := by
  have hzip : (c.withTurnout i o).pool.jobs.zip (c.withTurnout i o).records =
      (c.pool.jobs.zip c.records).modify i
        (Prod.map (Job.withEnding o.ending) (JobRecord.withReport o.onReport)) :=
    zip_modify
  unfold wakes
  rw [hzip]
  exact filterMap_modify_of_blind fun jr => by simp [Prod.map, JobRecord.withReport]

theorem nextTimer?_withTurnout : (c.withTurnout i o).nextTimer? = c.nextTimer? := by
  unfold nextTimer?
  rw [wakes_withTurnout, pool_withTurnout, Pool.nextDue?_withEnding]

end Crew

end TaskQueue
