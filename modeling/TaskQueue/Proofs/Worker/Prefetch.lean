import TaskQueue.Proofs.Pool.Schedule
import TaskQueue.Proofs.Worker.Parts
import TaskQueue.Proofs.Worker.Settled

/-!
# Prefetched tasks

A worker never has many more tasks in hand than it can run. A task that was claimed, and that nobody
is done with, runs, waits in the queue of the pool or in its channel, or the dispatcher or the task
loop has it; and each of these places holds so many tasks and no more, whatever else the pool is
used for.
-/

namespace TaskQueue

/-! ## Channels -/

/-- A channel with so much room has no more in it than that. -/
structure Channel.Fits {α : Type} (c : Channel α) (n : Nat) : Prop where
  capacity : c.capacity = n
  items : c.items.length ≤ n

section

variable {now : Instant} {cancelled : Bool} {l l' : TaskLoop} {n : Nat}

theorem TaskLoop.Step.fits {m} (h : TaskLoop.Step now cancelled l m l') (hl : l.channel.Fits n) :
    l'.channel.Fits n := by
  cases h with
  | delivered _ _ hroom =>
      simp only [Channel.hasRoom, Bool.and_eq_true, decide_eq_true_eq] at hroom
      refine ⟨hl.capacity, ?_⟩
      rw [Channel.push, List.length_append, ← hl.capacity]
      exact hroom.2
  | subscribed | setupFailed | pulled | claimed | givesBack | returned => exact hl

theorem TaskLoop.fits_of_receive? {t} (h : l.receive? = some (t, l')) (hl : l.channel.Fits n) :
    l'.channel.Fits n := by
  obtain ⟨items, hitems, rfl⟩ := TaskLoop.exists_of_receive? h
  refine ⟨hl.capacity, ?_⟩
  have hle := hl.items
  rw [hitems, List.length_cons] at hle
  exact Nat.le_of_succ_le hle

theorem WorkerRun.Step.fits {w : Worker} {r r' : WorkerRun} {m} (h : WorkerRun.Step w now r m r')
    (hr : r.tasks.channel.Fits n) : r'.tasks.channel.Fits n := by
  cases h with
  | taskLoop _ hl => exact hl.fits hr
  | skipped _ ht | unhandled _ ht => exact TaskLoop.fits_of_receive? ht hr
  | submitted _ ht _ _ hs =>
      obtain ⟨_, -, rfl⟩ := hs
      exact TaskLoop.fits_of_receive? ht hr
  | tickerSubmitted _ _ _ hs | cleanupSubmitted _ _ hs =>
      obtain ⟨_, -, rfl⟩ := hs
      exact hr
  | @refused _ _ j =>
      obtain ⟨settlements, hsettle⟩ := r.exists_settleJob j .giveBack
      rw [hsettle]
      exact hr
  | @finished i j _ late failure =>
      obtain ⟨settlements, hsettle⟩ := WorkerRun.exists_settleJob
        { r with pool := r.pool.setStage i (.ended (j.resultOf late failure)) } j
        (.ofResult · (j.resultOf late failure))
      rw [hsettle]
      exact hr
  | tickerLoop | cleanupLoop | tickerSkipped | accepted | left | pool | closed | settled | notified
  | cancelled => exact hr

end

/-! ## The pool -/

theorem length_le_one {l : List Nat} (hnodup : l.Nodup) (h : ∀ a ∈ l, ∀ b ∈ l, a = b) :
    l.length ≤ 1 := by
  match l with
  | [] | [_] => simp
  | a :: b :: _ =>
      have hab : a = b := h a (by simp) b (by simp)
      simp [hab] at hnodup

theorem length_le_countP_add {l : List Nat} {p q s : Nat → Bool}
    (h : ∀ a ∈ l, p a = true ∨ q a = true ∨ s a = true) :
    l.length ≤ l.countP p + l.countP q + l.countP s := by
  induction l with
  | nil => simp
  | cons a l ih =>
      obtain ⟨ha, hl⟩ := List.forall_mem_cons.mp h
      have hrest := ih hl
      simp only [List.countP_cons, List.length_cons]
      rcases ha with ha | ha | ha <;> simp only [ha, if_true] <;> omega

theorem Pool.countP_le {α : Type} {p : Pool α} {q : Job α → Bool} {l : List Nat}
    (hnodup : l.Nodup) : (l.countP fun i => (p.jobs[i]?).any q) ≤ p.jobs.countP q := by
  have hjobs : p.indices.map (p.jobs[·]?) = p.jobs.map some := by
    refine List.ext_getElem (by simp [indices]) fun i hi _ => ?_
    simp [indices]
  have hcount : (p.indices.countP fun i => (p.jobs[i]?).any q) = p.jobs.countP q := by
    have := congrArg (List.countP (Option.any q)) hjobs
    simpa [List.countP_map, Function.comp_def] using this
  rw [← hcount, List.countP_eq_length_filter, List.countP_eq_length_filter]
  refine (List.subperm_of_subset (hnodup.filter _) fun i hi => ?_).length_le
  obtain ⟨-, hany⟩ := List.mem_filter.mp hi
  obtain ⟨j, hj, -⟩ := (Option.any_eq_true _ _).mp hany
  exact List.mem_filter.mpr ⟨by simpa [indices] using (List.getElem?_eq_some_iff.mp hj).1, hany⟩

/-- A task is in the pool: its job has been called for and is not over. -/
def Dispatched.isPending (p : Pool Work) (d : Dispatched) : Bool :=
  d.job?.any fun i => (p.jobs[i]?).any fun j => !j.isOver

namespace JobsAccount

variable {w : Worker} {r : WorkerRun} {ds : List Dispatched}

/-- Only the dispatcher of tasks has a task whose job is not accepted yet, and it has one. -/
theorem waiting_unique (hj : JobsAccount w r ds) {i i' : Nat} (hi : i ∈ ds.filterMap Dispatched.job?)
    (hi' : i' ∈ ds.filterMap Dispatched.job?) (hw : (r.pool.jobs[i]?).any Job.isWaiting = true)
    (hw' : (r.pool.jobs[i']?).any Job.isWaiting = true) : i = i' := by
  have hdispatcher {i : Nat} (hi : i ∈ ds.filterMap Dispatched.job?)
      (hw : (r.pool.jobs[i]?).any Job.isWaiting = true) :
      r.dispatchers.get .tasks = .submitting i := by
    obtain ⟨d, hd, hi⟩ := List.mem_filterMap.mp hi
    obtain ⟨j, hjob, hsubject⟩ := hj.job_of_mem hd hi
    exact hj.waiting hjob (by simpa [hjob] using hw) (by simp [Job.isForTask, hsubject, Subject.task?])
  have hsame := (hdispatcher hi hw).symm.trans (hdispatcher hi' hw')
  exact Dispatcher.submitting.inj hsame

/-- The tasks that are in the pool run, wait in its queue, or wait to be admitted to it. -/
theorem pending_le (hj : JobsAccount w r ds) (hb : r.pool.Bounded) :
    (ds.filter (·.isPending r.pool)).length ≤ 2 * r.pool.size + 1 := by
  let jobs := (ds.filter (·.isPending r.pool)).filterMap Dispatched.job?
  have hsub : jobs.Sublist (ds.filterMap Dispatched.job?) := List.filter_sublist.filterMap _
  have hnodup : jobs.Nodup := hj.distinct.sublist hsub
  have hlength : jobs.length = (ds.filter (·.isPending r.pool)).length := by
    refine List.filterMap_length_eq_length.mpr fun d hd => ?_
    have hpending := (List.mem_filter.mp hd).2
    unfold Dispatched.isPending at hpending
    obtain ⟨i, hi, -⟩ := (Option.any_eq_true _ _).mp hpending
    simp [hi]
  have hpending : ∀ i ∈ jobs, (r.pool.jobs[i]?).any Job.isRunning = true ∨
      (r.pool.jobs[i]?).any Job.isQueued = true ∨ (r.pool.jobs[i]?).any Job.isWaiting = true := by
    intro i hi
    obtain ⟨d, hd, hi⟩ := List.mem_filterMap.mp hi
    have hpending := (List.mem_filter.mp hd).2
    simp only [Dispatched.isPending, hi, Option.any_some] at hpending
    obtain ⟨j, hjob, hover⟩ := (Option.any_eq_true _ _).mp hpending
    simp only [hjob, Option.any_some]
    unfold Job.isOver at hover
    cases hs : j.stage <;> simp_all [Job.isRunning, Job.isQueued, Job.isWaiting]
  have hwaiting : (jobs.countP fun i => (r.pool.jobs[i]?).any Job.isWaiting) ≤ 1 := by
    rw [List.countP_eq_length_filter]
    refine length_le_one (hnodup.filter _) fun i hi i' hi' => ?_
    obtain ⟨hmem, hw⟩ := List.mem_filter.mp hi
    obtain ⟨hmem', hw'⟩ := List.mem_filter.mp hi'
    exact hj.waiting_unique (hsub.subset hmem) (hsub.subset hmem') hw hw'
  have hrunning := (Pool.countP_le (p := r.pool) (q := Job.isRunning) hnodup).trans hb.running
  have hqueued := (Pool.countP_le (p := r.pool) (q := Job.isQueued) hnodup).trans hb.queued
  have hall := length_le_countP_add hpending
  omega

end JobsAccount

/-! ## Workers -/

def TaskLoop.Phase.held? : TaskLoop.Phase → Option Task
  | .holding task => some task
  | _ => none

namespace WorkerHistory

variable {w : Worker} {h h₀ : WorkerHistory}

/-- The task that the task loop has begun to give back, or gave back. -/
def handing? (h : WorkerHistory) : Option Task :=
  match h.run.tasks.phase with
  | .holding _ => none
  | _ => h.tasks.kept

/-- The tasks that a worker is done with: those that the dispatcher skipped, those that were refused
for want of a handler or by the pool, those whose callback has ended, and the one that the task loop
gives back. -/
def doneWith (h : WorkerHistory) : List Task :=
  (h.dispatched.filter (!·.isPending h.run.pool)).map Dispatched.task ++ h.handing?.toList

/-- The tasks that a worker has in hand: those that are in the pool or on the way into it, those in
the channel, and the one that the task loop waits to deliver. -/
def prefetched (h : WorkerHistory) : List Task :=
  (h.dispatched.filter (·.isPending h.run.pool)).map Dispatched.task ++
    h.run.tasks.channel.items ++ h.run.tasks.phase.held?.toList

theorem kept_toList (hf : h.tasks.Fits h.run.tasks) :
    h.tasks.kept.toList = h.handing?.toList ++ h.run.tasks.phase.held?.toList := by
  have hphase := hf.phase
  unfold handing? TaskLoop.Phase.held?
  cases hp : h.run.tasks.phase with
  | holding t =>
      rw [hp] at hphase
      simp [hphase.1]
  | subscribing | waiting | claiming | returning | ended => simp

/-- A task that was claimed is in hand, or the worker is done with it. -/
theorem Books.claimed_perm (hb : h.Books w) : h.tasks.claimed.Perm (h.doneWith ++ h.prefetched) := by
  have hdispatched := (List.filter_append_perm (·.isPending h.run.pool) h.dispatched).symm.trans
    List.perm_append_comm
  rw [hb.loop.claimed, hb.delivered, kept_toList hb.loop]
  refine (((hdispatched.map Dispatched.task).append_right _).append_right _).trans ?_
  simp only [doneWith, prefetched, List.map_append, List.append_assoc]
  -- the task that is given back goes past the tasks in the pool and in the channel
  refine List.Perm.append_left _ ?_
  simp only [← List.append_assoc _ h.run.tasks.channel.items]
  exact List.perm_append_comm_assoc ..

theorem channel_fits {es} (hr : after? (step? w) es h₀ = some h)
    (hs : h₀.run.tasks.channel.Fits 1) : h.run.tasks.channel.Fits 1 := by
  refine after?_preserves (P := fun h => h.run.tasks.channel.Fits 1) ?_ hr hs
  intro e t t' hs ht
  rcases step?_run hs with ⟨m, hr, -, -⟩ | ⟨-, -, stream, hrun⟩
  · exact hr.fits ht
  · rw [hrun]
    exact ht

theorem pool_bounded {n : Nat} {es} (hr : after? (step? w) es h₀ = some h)
    (hs : h₀.run.pool = .ofSize n) : h.run.pool.size = max n 1 ∧ h.run.pool.Bounded := by
  have hstart : h₀.run.pool.size = max n 1 ∧ h₀.run.pool.Bounded := by
    rw [hs]
    exact ⟨rfl, .ofSize n⟩
  refine pool_preserves (P := fun _ p => p.size = max n 1 ∧ p.Bounded) (fun _ hp => hp) ?_ hr hstart
  exact fun hp hpool => ⟨hp.size_eq.trans hpool.1, hpool.2.step hp⟩

/-- At every moment of a run, the tasks that were claimed and that the worker is not done with are
no more than it can run at a time, twice over, and three: so many run, so many wait in the queue of
the pool, and the dispatcher, the channel and the task loop have one each. -/
theorem prefetched_le {now jitter cleanupJitter es}
    (hs : start w now jitter cleanupJitter = .ok h₀) (hr : after? (step? w) es h₀ = some h) :
    h.tasks.claimed.Perm (h.doneWith ++ h.prefetched) ∧
      h.prefetched.length ≤ 2 * max w.concurrency 1 + 3 := by
  have hb : h.Books w := (Books.start hs).run hr
  refine ⟨hb.claimed_perm, ?_⟩
  obtain ⟨run, hrun, rfl⟩ := start_eq_ok hs
  obtain ⟨-, -, hpool, hchannel, -, -, -⟩ := WorkerRun.start_eq_ok hrun
  obtain ⟨hsize, hbounded⟩ := pool_bounded hr hpool
  have hpending := hb.jobs.pending_le hbounded
  have hitems := (channel_fits hr ⟨by rw [hchannel]; rfl, by rw [hchannel]; exact Nat.zero_le _⟩).items
  have hheld : h.run.tasks.phase.held?.toList.length ≤ 1 := by
    cases h.run.tasks.phase.held? <;> simp
  simp only [prefetched, List.length_append, List.length_map]
  omega

/-- A run up to a moment at which all places are taken: the first task runs, the second is queued in
the pool, the dispatcher waits with the third, the fourth is in the channel, and the task loop holds
the fifth. -/
def crowding : List Event :=
  [.turn [.empty], .turn []] ++ claimAndDispatch 1 "mail" ++
    [.move (.pool .enqueue), .move (.answered .tasks), .move (.pool .start)] ++
    claimAndDispatch 2 "mail" ++ [.move (.pool .enqueue), .move (.answered .tasks)] ++
    claimAndDispatch 3 "mail" ++ [.turn (taskReplies 4), .turn [], .turn (taskReplies 5)]

/-- The bound is reached. -/
theorem crowding_prefetches :
    ∃ h₀ h, start mailWorker 0 .zero .zero = .ok h₀ ∧
      after? (step? mailWorker) crowding h₀ = some h ∧
      h.tasks.claimed.Perm (h.doneWith ++ h.prefetched) ∧
      h.prefetched.length ≤ 2 * max mailWorker.concurrency 1 + 3 ∧
      h.prefetched.length = 2 * mailWorker.concurrency + 3 := by
  have hrun : ((start mailWorker 0 .zero .zero).toOption.bind
      (after? (step? mailWorker) crowding)).any (fun h =>
        h.prefetched.length = 2 * mailWorker.concurrency + 3) = true := by
    decide +kernel
  obtain ⟨h₀, h, hs, hr, hreached⟩ := exists_run hrun
  obtain ⟨hclaimed, hle⟩ := prefetched_le hs hr
  exact ⟨h₀, h, hs, hr, hclaimed, hle, of_decide_eq_true hreached⟩

end WorkerHistory

end TaskQueue
