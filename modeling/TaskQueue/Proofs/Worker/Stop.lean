import TaskQueue.Proofs.Worker.Parts
import TaskQueue.Proofs.Worker.Settled

/-!
# What callbacks see of the stop

A run whose loops ended well was cancelled, and then its callbacks see that they are to stop. When a
loop fails, only the loops are stopped: the callbacks that run or are yet to run go on until the
worker is cancelled or their own time is up.
-/

namespace TaskQueue

namespace WorkerRun

variable {w : Worker} {now : Instant} {r r' : WorkerRun} {m : Move}

/-- The dispatcher receives what the cleanup loop offers, so that the loop ends well only when the
run is cancelled. -/
structure Attended (r : WorkerRun) : Prop where
  attached : r.cleanup.channel.attached = true
  cancelled : r.cleanup.result? = some (.ok ()) → r.cancelled = true

theorem Attended.congr (hr : r.Attended) (hcleanup : r'.cleanup = r.cleanup)
    (hcancelled : r.cancelled = true → r'.cancelled = true) : r'.Attended :=
  ⟨hcleanup ▸ hr.attached, fun hresult => hcancelled (hr.cancelled (hcleanup ▸ hresult))⟩

theorem Step.attended (h : Step w now r m r') (hr : r.Attended) : r'.Attended := by
  have hmono : r.cancelled = true → r'.cancelled = true := fun hc => h.cancelled_iff.mpr (.inl hc)
  cases h with
  | @cleanupLoop _ cleanup _ hl =>
      have hstep := TickerLoop.step?_sound hl
      exact ⟨hstep.attached.trans hr.attached, hstep.cancelled_of_ok hr.attached⟩
  | cleanupSubmitted _ ht hs =>
      obtain ⟨channel, htake, rfl⟩ := TickerLoop.exists_of_receive? ht
      obtain ⟨_, -, rfl⟩ := Channel.take?_eq_some htake
      obtain ⟨_, -, rfl⟩ := hs
      exact ⟨hr.attached, fun hresult => hmono (hr.cancelled hresult)⟩
  | submitted _ _ _ _ hs | tickerSubmitted _ _ _ hs =>
      obtain ⟨_, -, rfl⟩ := hs
      exact hr.congr rfl hmono
  | refused | finished => exact hr.congr settleJob_cleanup hmono
  | taskLoop | tickerLoop | skipped | unhandled | tickerSkipped | accepted | left | pool | closed
  | settled | notified | cancelled => exact hr.congr rfl hmono

end WorkerRun

namespace WorkerHistory

variable {w : Worker} {h h' h₀ mid : WorkerHistory} {es before after : List Event}

theorem attended_of_run {now jitter cleanupJitter}
    (hs : start w now jitter cleanupJitter = .ok h₀) (hr : after? (step? w) es h₀ = some h) :
    h.run.Attended := by
  have hstart : h₀.run.Attended := by
    obtain ⟨run, hrun, rfl⟩ := start_eq_ok hs
    obtain ⟨-, -, -, -, hcleanup, -⟩ := WorkerRun.start_eq_ok hrun
    constructor <;> rw [hcleanup]
    · rfl
    · intro hresult; cases hresult
  refine after?_preserves (P := fun h => h.run.Attended) ?_ hr hstart
  intro e h h' hs hh
  rcases step?_run hs with ⟨m, hr, -, -⟩ | ⟨-, -, stream, hrun⟩
  · exact hr.attended hh
  · rw [hrun]
    exact hh.congr rfl id

theorem start_pool {now jitter cleanupJitter}
    (hs : start w now jitter cleanupJitter = .ok h₀) : h₀.run.pool = .ofSize w.concurrency := by
  obtain ⟨run, hrun, rfl⟩ := start_eq_ok hs
  exact (WorkerRun.start_eq_ok hrun).2.2.1

theorem cancel_mem_of_ok {now jitter cleanupJitter}
    (hs : start w now jitter cleanupJitter = .ok h₀) (hr : after? (step? w) es h₀ = some h)
    (hok : h.run.result? = some (.ok ())) : .move .cancel ∈ es := by
  have hcancelled : h.run.cancelled = true :=
    (attended_of_run hs hr).cancelled (WorkerRun.loopResult?_of_ok hok .cleanup)
  refine ((cancelled_iff_mem hr).mp hcancelled).resolve_left ?_
  simp [WorkerRun.cancelled, start_pool hs, Pool.ofSize]

/-- From the moment at which the loops of a run have ended, with `r` as their result, a callback
that runs sees that it is to stop if and only if the worker was cancelled, or its own time is up.
If the loops ended well the worker was cancelled. -/
theorem callback_stopped_iff {now jitter cleanupJitter r}
    (hs : start w now jitter cleanupJitter = .ok h₀)
    (hbefore : after? (step? w) before h₀ = some mid) (hresult : mid.run.result? = some r)
    (hafter : after? (step? w) after mid = some h) :
    h.run.result? = some r ∧ (r = .ok () → .move .cancel ∈ before) ∧
      ∀ j ∈ h.run.pool.jobs, ∀ since late, j.stage = .running since late →
        (h.run.pool.isCancelled j = true ↔ .move .cancel ∈ before ++ after ∨ late = true) ∧
        (late = true → ∃ limit, j.limit = some limit ∧ since + limit.nanos ≤ h.now) := by
  have hrun : after? (step? w) (before ++ after) h₀ = some h := by
    rw [after?_append, hbefore]
    exact hafter
  have htold : ∀ j ∈ h.run.pool.jobs, j.ToldInTime h.now :=
    pool_preserves (P := fun now p => ∀ j ∈ p.jobs, j.ToldInTime now)
      (fun hle hp j hj => (hp j hj).mono hle) (fun hp => hp.toldInTime) hrun
      (by simp [start_pool hs, Pool.ofSize])
  have hcancelled : h.run.pool.cancelled = true ↔ .move .cancel ∈ before ++ after := by
    have hiff := cancelled_iff_mem hrun
    simpa [WorkerRun.cancelled, start_pool hs, Pool.ofSize] using hiff
  refine ⟨result?_of_run hafter hresult, ?_, ?_⟩
  · rintro rfl
    exact cancel_mem_of_ok hs hbefore hresult
  · intro j hj since late hstage
    have htold := htold j hj
    simp only [Job.ToldInTime, hstage] at htold
    obtain ⟨hlate, hdue⟩ := htold
    rw [Pool.isCancelled, Bool.or_eq_true, hcancelled, hlate]
    exact ⟨.rfl, hdue⟩

/-- A run in which a claim fails while the first task runs and the second is queued. The first ends,
and the second is started after the failure. -/
def failedRun : List Event :=
  [.turn [.empty], .turn []] ++ claimAndDispatch 1 "mail" ++
    [.move (.pool .enqueue), .move (.answered .tasks), .move (.pool .start)] ++
    claimAndDispatch 2 "mail" ++
    [.move (.pool .enqueue), .move (.answered .tasks), .turn []]

theorem failedRun_stopped_by_cancel :
    ∃ h₀ mid h e j, start mailWorker 0 .zero .zero = .ok h₀ ∧
      after? (step? mailWorker) failedRun h₀ = some mid ∧ mid.run.result? = some (.error e) ∧
      after? (step? mailWorker) [.move .cancel] mid = some h ∧ j ∈ h.run.pool.jobs ∧
      j.isRunning = true ∧ h.run.pool.isCancelled j = true := by
  have hrun : ((start mailWorker 0 .zero .zero).toOption.bind
      (after? (step? mailWorker) failedRun)).any (fun mid =>
        mid.run.result?.any (!·.isOk) &&
          (after? (step? mailWorker) [.move .cancel] mid).any fun h =>
            h.run.pool.jobs.any Job.isRunning) = true := by
    decide +kernel
  obtain ⟨h₀, mid, hs, hmid, hh⟩ := exists_run hrun
  simp only [Bool.and_eq_true] at hh
  obtain ⟨hfailed, hcancel⟩ := hh
  obtain ⟨r, hresult, hnot⟩ := (Option.any_eq_true _ _).mp hfailed
  obtain ⟨h, hafter, hjobs⟩ := (Option.any_eq_true _ _).mp hcancel
  obtain ⟨j, hj, hrunning⟩ := List.any_eq_true.mp hjobs
  obtain ⟨since, late, hstage⟩ : ∃ since late, j.stage = .running since late := by
    cases hstage : j.stage <;> simp [Job.isRunning, hstage] at hrunning ⊢
  obtain ⟨-, -, hstopped⟩ := callback_stopped_iff hs hmid hresult hafter
  obtain ⟨hiff, -⟩ := hstopped j hj since late hstage
  cases r with
  | error e =>
      exact ⟨h₀, mid, h, e, j, hs, hmid, hresult, hafter, hj, hrunning, hiff.mpr (.inl (by simp))⟩
  | ok => cases hnot

/-- After the failure of a loop one callback runs on and another is started, and neither sees that
it is to stop. -/
theorem failedRun_goes_unseen :
    ∃ h₀ mid h e j j', start mailWorker 0 .zero .zero = .ok h₀ ∧
      after? (step? mailWorker) failedRun h₀ = some mid ∧ mid.run.result? = some (.error e) ∧
      j ∈ mid.run.pool.jobs ∧ j.isRunning = true ∧ mid.run.pool.isCancelled j = false ∧
      after? (step? mailWorker)
        [.move (.pool (.finish 0 none)), .move (.pool .start)] mid = some h ∧
      mid.run.pool.jobs[1]?.any Job.isQueued = true ∧ h.run.pool.jobs[1]? = some j' ∧
      j'.isRunning = true ∧ h.run.pool.isCancelled j' = false := by
  have hrun : ((start mailWorker 0 .zero .zero).toOption.bind
      (after? (step? mailWorker) failedRun)).any (fun mid =>
        mid.run.result?.any (!·.isOk) &&
          (mid.run.pool.jobs.any fun j => j.isRunning && !mid.run.pool.isCancelled j) &&
          mid.run.pool.jobs[1]?.any Job.isQueued &&
          (after? (step? mailWorker)
            [.move (.pool (.finish 0 none)), .move (.pool .start)] mid).any fun h =>
              h.run.pool.jobs[1]?.any fun j =>
                j.isRunning && !h.run.pool.isCancelled j) = true := by
    decide +kernel
  obtain ⟨h₀, mid, hs, hmid, hh⟩ := exists_run hrun
  simp only [Bool.and_eq_true] at hh
  obtain ⟨⟨⟨hfailed, hjobs⟩, hqueued⟩, hmore⟩ := hh
  obtain ⟨e | _, hresult, hnot⟩ := (Option.any_eq_true _ _).mp hfailed
  · obtain ⟨j, hj, hjob⟩ := List.any_eq_true.mp hjobs
    obtain ⟨h, hafter, hjob'⟩ := (Option.any_eq_true _ _).mp hmore
    obtain ⟨j', hj', hjob'⟩ := (Option.any_eq_true _ _).mp hjob'
    simp only [Bool.and_eq_true, Bool.not_eq_true'] at hjob hjob'
    exact ⟨h₀, mid, h, e, j, j', hs, hmid, hresult, hj, hjob.1, hjob.2, hafter, hqueued, hj',
      hjob'.1, hjob'.2⟩
  · cases hnot

end WorkerHistory

end TaskQueue
