import TaskQueue.Proofs.Pool.Step
import TaskQueue.Proofs.TaskLoop.Step
import TaskQueue.Worker.Run

/-!
# Steps of a worker

The moves of a run as a relation, one rule for each thing that can happen. The loops step only while
none of them failed and not all of them ended; everything else goes on to the end.
-/

namespace TaskQueue

theorem Line.mem_all (line : Line) : line ∈ Line.all := by
  cases line <;> simp [Line.all]

namespace Lines

variable {α : Type} {ls : Lines α} {line line' : Line} {a : α}

@[simp] theorem get_set_self : (ls.set line a).get line = a := by
  cases line <;> rfl

theorem get_set_of_ne (h : line ≠ line') : (ls.set line a).get line' = ls.get line' := by
  cases line <;> cases line' <;> first | rfl | exact absurd rfl h

end Lines

namespace WorkerRun

variable {w : Worker} {now : Instant} {r r' : WorkerRun} {m : Move}

@[simp] theorem get_setDispatcher_self {line d} :
    (r.setDispatcher line d).dispatchers.get line = d :=
  Lines.get_set_self

theorem get_setDispatcher_of_ne {line line' d} (h : line ≠ line') :
    (r.setDispatcher line d).dispatchers.get line' = r.dispatchers.get line' :=
  Lines.get_set_of_ne h

/-- A dispatcher goes on to submit something to the pool. -/
def Submits (now : Instant) (r : WorkerRun) (line : Line) (s : Submission) (r' : WorkerRun) :
    Prop :=
  ∃ pool, Pool.Step now r.pool (.call s.worker s.subject s.limit s.work) pool ∧
    r' = { r with pool }.setDispatcher line (.submitting r.pool.jobs.length)

/-- What can happen to a run of a worker at an instant. -/
inductive Step (w : Worker) (now : Instant) (r : WorkerRun) : Move → WorkerRun → Prop where
  | taskLoop {m tasks} : r.result? = none → TaskLoop.Step now r.cancelled r.tasks m tasks →
      Step w now r (.taskLoop m) { r with tasks }
  | tickerLoop {m tickers} : r.result? = none → r.tickers.step? now r.cancelled m = some tickers →
      Step w now r (.tickerLoop m) { r with tickers }
  | cleanupLoop {m cleanup} : r.result? = none →
      r.cleanup.step? now r.cancelled m = some cleanup →
      Step w now r (.cleanupLoop m) { r with cleanup }
  | skipped {moment t tasks} : r.dispatchers.get .tasks = .idle →
      r.tasks.receive? = some (t, tasks) → t.statusAt moment = .expired →
      Step w now r (.dispatch .tasks moment) { r with tasks }
  | unhandled {moment t tasks} : r.dispatchers.get .tasks = .idle →
      r.tasks.receive? = some (t, tasks) → t.statusAt moment ≠ .expired →
      w.queues.find? t.queue = none →
      Step w now r (.dispatch .tasks moment)
        ({ r with tasks }.settle (.fail t.id (noHandlerMessage t.queue)))
  | submitted {moment t tasks handler r'} : r.dispatchers.get .tasks = .idle →
      r.tasks.receive? = some (t, tasks) → t.statusAt moment ≠ .expired →
      w.queues.find? t.queue = some handler →
      Submits now { r with tasks } .tasks (.ofTask w.manager.worker t moment (handler t)) r' →
      Step w now r (.dispatch .tasks moment) r'
  | tickerSkipped {moment t tickers} : r.dispatchers.get .tickers = .idle →
      r.tickers.receive? = some (t, tickers) → w.tickers.find? t.ticker = none →
      Step w now r (.dispatch .tickers moment) { r with tickers }
  | tickerSubmitted {moment t tickers handler r'} : r.dispatchers.get .tickers = .idle →
      r.tickers.receive? = some (t, tickers) → w.tickers.find? t.ticker = some handler →
      Submits now { r with tickers } .tickers (.ofTicker w.manager.worker t (handler t)) r' →
      Step w now r (.dispatch .tickers moment) r'
  | cleanupSubmitted {moment t cleanup r'} : r.dispatchers.get .cleanup = .idle →
      r.cleanup.receive? = some (t, cleanup) →
      Submits now { r with cleanup } .cleanup (.ofTicker w.manager.worker t .external) r' →
      Step w now r (.dispatch .cleanup moment) r'
  | accepted {line i j} : r.dispatchers.get line = .submitting i → r.pool.jobs[i]? = some j →
      j.stage ≠ .waiting → (∀ why, j.stage ≠ .refused why) →
      Step w now r (.answered line) (r.setDispatcher line .idle)
  | refused {line i j why} : r.dispatchers.get line = .submitting i → r.pool.jobs[i]? = some j →
      j.stage = .refused why →
      Step w now r (.answered line) ((r.settleJob j .giveBack).setDispatcher line .idle)
  | left {line} : r.dispatchers.get line = .idle → r.isEmptied line = true →
      r.isFed line = false → Step w now r (.leave line) (r.setDispatcher line .ended)
  | finished {i j since late failure} : r.pool.jobs[i]? = some j →
      j.stage = .running since late →
      Step w now r (.pool (.finish i failure))
        ({ r with pool := r.pool.setStage i (.ended (j.resultOf late failure)) }.settleJob j
          (.ofResult · (j.resultOf late failure)))
  | pool {m pool} : m.isInner = true → Pool.Step now r.pool m pool →
      Step w now r (.pool m) { r with pool }
  | closed : r.isDispatched = true → r.pool.closed = false →
      Step w now r .close { r with pool := { r.pool with closed := true } }
  | settled {result s settlements} : r.settlements = s :: settlements →
      Step w now r (.settled result) { r with settlements }
  | notified {queue} : Step w now r (.notify queue) { r with tasks := r.tasks.notify queue }
  | cancelled : Step w now r .cancel { r with pool := { r.pool with cancelled := true } }

theorem submits_of_submit {line s} (h : r.submit now line s = some r') :
    Submits now r line s r' := by
  obtain ⟨pool, hp, h⟩ := Option.bind_eq_some_iff.mp h
  cases h
  exact ⟨pool, Pool.step?_sound hp, rfl⟩

theorem whileFed_eq_some {next : Option WorkerRun} (h : r.whileFed next = some r') :
    r.result? = none ∧ next = some r' := by
  unfold whileFed at h
  split at h
  · exact ⟨Option.isNone_iff_eq_none.mp ‹_›, h⟩
  · cases h

theorem dispatchTask_sound {moment} (hidle : r.dispatchers.get .tasks = .idle)
    (h : r.dispatchTask w now moment = some r') :
    Step w now r (.dispatch .tasks moment) r' := by
  obtain ⟨⟨t, tasks⟩, ht, h⟩ := Option.bind_eq_some_iff.mp h
  dsimp only at h
  split at h
  · cases h
    exact .skipped hidle ht ‹_›
  · rename_i hexpired
    split at h
    · rename_i hnone
      cases h
      exact .unhandled hidle ht hexpired hnone
    · rename_i handler hsome
      exact .submitted hidle ht hexpired hsome (submits_of_submit h)

theorem dispatch_sound {line moment} (h : r.dispatch w now moment line = some r') :
    Step w now r (.dispatch line moment) r' := by
  unfold dispatch at h
  split at h
  · rename_i hidle
    cases line with
    | tasks => exact dispatchTask_sound hidle h
    | tickers =>
        obtain ⟨⟨t, tickers⟩, ht, h⟩ := Option.bind_eq_some_iff.mp h
        dsimp only at h
        split at h
        · cases h
          exact .tickerSkipped hidle ht ‹_›
        · exact .tickerSubmitted hidle ht ‹_› (submits_of_submit h)
    | cleanup =>
        obtain ⟨⟨t, cleanup⟩, ht, h⟩ := Option.bind_eq_some_iff.mp h
        exact .cleanupSubmitted hidle ht (submits_of_submit h)
  · cases h

theorem hearAnswer_sound {line} (h : r.hearAnswer line = some r') :
    Step w now r (.answered line) r' := by
  unfold hearAnswer at h
  split at h
  · rename_i i hd
    split at h
    · rename_i j hj
      split at h
      · cases h
      · rename_i why hs
        cases h
        exact .refused hd hj hs
      · rename_i hwaiting hrefused
        cases h
        exact .accepted hd hj hwaiting hrefused
    · cases h
  · cases h

theorem movePool_sound {m} (h : r.movePool now m = some r') : Step w now r (.pool m) r' := by
  cases m with
  | call | cancel | close => cases h
  | finish i failure =>
      obtain ⟨pool, hp, h⟩ := Option.bind_eq_some_iff.mp h
      cases Pool.step?_sound hp with
      | @finished _ j since late _ hj hs =>
          simp only [Pool.getElem?_setStage hj, if_true] at h
          cases h
          exact Step.finished (j := j) hj hs
  | refuse | enqueue | start | expire =>
      obtain ⟨pool, hp, rfl⟩ := Option.map_eq_some_iff.mp h
      exact .pool rfl (Pool.step?_sound hp)

/-- What `step?` leads to is a step. -/
theorem step?_sound (h : r.step? w now m = some r') : Step w now r m r' := by
  cases m with
  | taskLoop m =>
      obtain ⟨hr, h⟩ := whileFed_eq_some h
      obtain ⟨tasks, ht, rfl⟩ := Option.map_eq_some_iff.mp h
      exact .taskLoop hr (TaskLoop.step?_sound ht)
  | tickerLoop m =>
      obtain ⟨hr, h⟩ := whileFed_eq_some h
      obtain ⟨tickers, ht, rfl⟩ := Option.map_eq_some_iff.mp h
      exact .tickerLoop hr ht
  | cleanupLoop m =>
      obtain ⟨hr, h⟩ := whileFed_eq_some h
      obtain ⟨cleanup, ht, rfl⟩ := Option.map_eq_some_iff.mp h
      exact .cleanupLoop hr ht
  | dispatch line moment => exact dispatch_sound h
  | answered line => exact hearAnswer_sound h
  | leave line =>
      simp only [step?] at h
      split at h
      · rename_i hg
        simp only [Bool.and_eq_true, Bool.not_eq_true', decide_eq_true_eq] at hg
        cases h
        exact .left hg.1.1 hg.1.2 hg.2
      · cases h
  | pool m => exact movePool_sound h
  | close =>
      simp only [step?] at h
      split at h
      · rename_i hg
        simp only [Bool.and_eq_true, Bool.not_eq_true'] at hg
        cases h
        exact .closed hg.1 hg.2
      · cases h
  | settled result =>
      simp only [step?] at h
      split at h
      · cases h
      · rename_i s settlements hs
        cases h
        exact .settled hs
  | notify queue => cases h; exact .notified
  | cancel => cases h; exact .cancelled

end WorkerRun

end TaskQueue
