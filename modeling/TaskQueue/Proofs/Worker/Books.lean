import TaskQueue.Proofs.TickerLoop.Step
import TaskQueue.Proofs.Worker.Accounting

/-!
# The books of a worker

The books hold at the beginning of a run, and every event keeps them, so they hold in every history.
When a run has returned, nothing is left in the channel, in the pool or among the settlements: every
task that was claimed was dispatched, or the task loop had it last.
-/

namespace TaskQueue

namespace WorkerRun

variable {r r' : WorkerRun} {line : Line}

theorem result?_congr (h : ∀ line, r'.loopResult? line = r.loopResult? line) :
    r'.result? = r.result? := by
  simp only [result?, failure?, h]

/-- A run ends well only when all of its loops did. -/
theorem loopResult?_of_ok (h : r.result? = some (.ok ())) (line : Line) :
    r.loopResult? line = some (.ok ()) := by
  unfold result? at h
  split at h
  · cases h
  · rename_i hfailure
    split at h
    · rename_i hall
      obtain ⟨result, hresult⟩ := Option.isSome_iff_exists.mp (List.all_eq_true.mp hall line line.mem_all)
      have hnot := List.findSome?_eq_none_iff.mp hfailure line line.mem_all
      rcases result with e | _
      · simp [hresult] at hnot
      · exact hresult
    · cases h

theorem start_eq_ok {w : Worker} {now jitter cleanupJitter}
    (hs : start w now jitter cleanupJitter = .ok r) :
    r.settlements = [] ∧ r.dispatchers = .replicate .idle ∧ r.pool = .ofSize w.concurrency ∧
      r.tasks.channel = .single ∧ r.cleanup = .start w.tickerPeriod .single now cleanupJitter ∧
      r.tickers = (if w.tickers.isEmpty then noTickers w now
        else .start w.tickerPeriod .single now jitter) ∧
      (r.tasks.phase = .subscribing ∨ r.tasks.phase = .ended (.ok ())) := by
  have htasks {period l} (hl : TaskLoop.start period .single now = .ok l) :
      l.channel = .single ∧ l.phase = .subscribing := by
    unfold TaskLoop.start SignalStream.start Ticking.start at hl
    split at hl <;> cases hl
    exact ⟨rfl, rfl⟩
  cases hq : w.queues.isEmpty with
  | true =>
      simp only [start, hq, if_true] at hs
      cases hs
      exact ⟨rfl, rfl, rfl, rfl, rfl, rfl, .inr rfl⟩
  | false =>
      simp only [start, hq, if_false, Bool.false_eq_true] at hs
      cases hl : TaskLoop.start w.pollInterval .single now with
      | error e => rw [hl] at hs; cases hs
      | ok l =>
          rw [hl] at hs
          cases hs
          exact ⟨rfl, rfl, rfl, (htasks hl).1, rfl, rfl, .inl (htasks hl).2⟩

/-- Nothing will come on the line of tasks any more, and nothing is in its channel. -/
def isDry (r : WorkerRun) : Prop :=
  r.tasks.channel.items = [] ∧ r.isFed .tasks = false

theorem isDry.congr (h : r.isDry) (hitems : r'.tasks.channel.items = r.tasks.channel.items)
    (hresult : ∀ line, r'.loopResult? line = r.loopResult? line) : r'.isDry := by
  refine ⟨hitems.trans h.1, ?_⟩
  have hfed := h.2
  simp only [isFed, hresult, result?_congr hresult] at hfed ⊢
  exact hfed

theorem exists_settleJob (r : WorkerRun) (j : Job Work) (f : Int64 → Settlement) :
    ∃ settlements, r.settleJob j f = { r with settlements } := by
  unfold settleJob
  split
  · exact ⟨_, rfl⟩
  · exact ⟨r.settlements, rfl⟩

theorem not_dispatched (h : r.dispatchers.get line ≠ .ended) : r.isDispatched = false := by
  cases hd : r.isDispatched with
  | false => rfl
  | true =>
      have hall := List.all_eq_true.mp hd line line.mem_all
      exact absurd (of_decide_eq_true hall) h

end WorkerRun

namespace TaskLoop

theorem exists_of_receive? {l l' : TaskLoop} {t : Task} (h : l.receive? = some (t, l')) :
    ∃ items, l.channel.items = t :: items ∧
      l' = { l with channel := { l.channel with items } } := by
  obtain ⟨⟨t, channel⟩, htake, h⟩ := Option.map_eq_some_iff.mp h
  cases h
  obtain ⟨items, hitems, rfl⟩ := Channel.take?_eq_some htake
  exact ⟨items, hitems, rfl⟩

end TaskLoop

namespace WorkerHistory

variable {w : Worker} {h h' h₀ : WorkerHistory}

/-- The books of a history: what the task loop claimed and delivered, what the dispatcher made of
it, what the pool and the settlements know of that, and that each part ends only when nothing more
comes to it. -/
structure Books (w : Worker) (h : WorkerHistory) : Prop where
  loop : h.tasks.Fits h.run.tasks
  attached : h.run.tasks.channel.attached = true
  delivered : h.tasks.delivered =
    h.dispatched.map Dispatched.task ++ h.run.tasks.channel.items
  jobs : JobsAccount w h.run h.dispatched
  balanced : Balanced h.run h.dispatched h.settled
  dry : h.run.dispatchers.get .tasks = .ended → h.run.isDry
  closed : h.run.pool.closed = true → h.run.isDispatched = true

theorem start_eq_ok {now jitter cleanupJitter}
    (hs : start w now jitter cleanupJitter = .ok h₀) :
    ∃ run, WorkerRun.start w now jitter cleanupJitter = .ok run ∧ h₀ = { now, run } := by
  unfold start at hs
  cases hr : WorkerRun.start w now jitter cleanupJitter with
  | error e => rw [hr] at hs; cases hs
  | ok run => rw [hr] at hs; cases hs; exact ⟨run, rfl, rfl⟩

theorem Books.start {now jitter cleanupJitter}
    (hs : start w now jitter cleanupJitter = .ok h₀) : h₀.Books w := by
  obtain ⟨run, hrun, rfl⟩ := start_eq_ok hs
  obtain ⟨hsettlements, hdispatchers, hpool, hchannel, -, -, hphase⟩ := WorkerRun.start_eq_ok hrun
  have hidle {line : Line} : run.dispatchers.get line = .idle := by
    rw [hdispatchers]
    cases line <;> rfl
  constructor
  case loop => exact .start hphase
  case attached => rw [hchannel]; rfl
  case delivered => rw [hchannel]; rfl
  case jobs => constructor <;> simp [hpool, Pool.ofSize, hidle]
  case balanced => simp [Balanced, hsettlements, WorkerRun.unheard, hidle]
  case dry => intro hd; rw [hidle] at hd; cases hd
  case closed => rw [hpool]; intro hc; cases hc

/-- While a dispatcher goes on, the pool is open. -/
theorem Books.not_closed {line} (hb : h.Books w)
    (hline : h.run.dispatchers.get line ≠ .ended) : h.run.pool.closed = false := by
  cases hc : h.run.pool.closed with
  | false => rfl
  | true =>
      have hall := hb.closed hc
      rw [WorkerRun.not_dispatched hline] at hall
      cases hall

/-! ## Moves -/

theorem Books.taskLoop {m tasks} (hb : h.Books w) (hres : h.run.result? = none)
    (hl : TaskLoop.Step h.now h.run.cancelled h.run.tasks m tasks) :
    Books w { h with tasks := h.tasks.note h.run.tasks m, run := { h.run with tasks } } := by
  obtain ⟨ts, hitems, hdelivered, -⟩ := hl.delivered_eq h.tasks
  constructor
  case loop => exact hb.loop.step hl
  case attached => exact hl.attached.trans hb.attached
  case delivered => simp only [hdelivered, hitems, hb.delivered, List.append_assoc]
  case jobs => exact hb.jobs.congr rfl rfl
  case balanced => exact hb.balanced
  case dry =>
    -- the loop would not have stepped
    intro hd
    have hfed := (hb.dry hd).2
    simp [WorkerRun.isFed, hres, WorkerRun.loopResult?, hl.not_ended] at hfed
  case closed => exact hb.closed

/-- Another loop, which did not end before, makes a move: the line of tasks is as dry as it was. -/
theorem isDry_of_loops {r r' : WorkerRun} (hd : r.isDry) (htasks : r'.tasks = r.tasks)
    (hres : r.result? = none) : r'.isDry := by
  obtain ⟨hitems, hfed⟩ := hd
  refine ⟨htasks ▸ hitems, ?_⟩
  simp only [WorkerRun.isFed, hres, Option.isNone_none, Bool.true_and,
    WorkerRun.loopResult?] at hfed
  simp [WorkerRun.isFed, WorkerRun.loopResult?, htasks, hfed]

/-- What leaves the task loop and its channel as they are keeps the books if it keeps the rest. -/
theorem Books.withRun {run} (hb : h.Books w) (hphase : run.tasks.phase = h.run.tasks.phase)
    (hchannel : run.tasks.channel = h.run.tasks.channel)
    (hjobs : JobsAccount w run h.dispatched) (hbalanced : Balanced run h.dispatched h.settled)
    (hdry : run.dispatchers.get .tasks = .ended → run.isDry)
    (hclosed : run.pool.closed = true → run.isDispatched = true) :
    Books w { h with run } := by
  refine ⟨⟨hb.loop.claimed, ?_⟩, ?_, ?_, hjobs, hbalanced, hdry, hclosed⟩
  · rw [hphase]
    exact hb.loop.phase
  · rw [hchannel]
    exact hb.attached
  · rw [hchannel]
    exact hb.delivered

/-- So does what leaves the dispatchers and the results of the loops as they are, and neither opens
nor closes the pool. -/
theorem Books.withSame {run} (hb : h.Books w) (hphase : run.tasks.phase = h.run.tasks.phase)
    (hchannel : run.tasks.channel = h.run.tasks.channel)
    (hresult : ∀ line, run.loopResult? line = h.run.loopResult? line)
    (hdispatchers : run.dispatchers = h.run.dispatchers)
    (hclosed : run.pool.closed = h.run.pool.closed)
    (hjobs : JobsAccount w run h.dispatched) (hbalanced : Balanced run h.dispatched h.settled) :
    Books w { h with run } := by
  refine hb.withRun hphase hchannel hjobs hbalanced ?_ ?_
  · rw [hdispatchers]
    exact fun hd => (hb.dry hd).congr (by rw [hchannel]) hresult
  · rw [hclosed]
    intro hc
    simp only [WorkerRun.isDispatched, hdispatchers]
    exact hb.closed hc

theorem Books.dispatch {t tasks run d} (hb : h.Books w)
    (hidle : h.run.dispatchers.get .tasks = .idle)
    (ht : h.run.tasks.receive? = some (t, tasks)) (htasks : run.tasks = tasks) (hd : d.task = t)
    (hjobs : JobsAccount w run (h.dispatched ++ [d]))
    (hbalanced : Balanced run (h.dispatched ++ [d]) h.settled)
    (hbusy : run.dispatchers.get .tasks ≠ .ended)
    (hclosed : run.pool.closed = h.run.pool.closed) :
    Books w { h with dispatched := h.dispatched ++ [d], run } := by
  obtain ⟨items, hitems, rfl⟩ := TaskLoop.exists_of_receive? ht
  have hphase : run.tasks.phase = h.run.tasks.phase := by rw [htasks]
  have hchannel : run.tasks.channel = { h.run.tasks.channel with items } := by rw [htasks]
  refine ⟨⟨hb.loop.claimed, ?_⟩, ?_, ?_, hjobs, hbalanced, fun hended => absurd hended hbusy, ?_⟩
  · rw [hphase]
    exact hb.loop.phase
  · rw [hchannel]
    exact hb.attached
  · simp [hchannel, hb.delivered, hitems, hd]
  · intro hc
    have hopen := hb.not_closed (by rw [hidle]; simp)
    change run.pool.closed = true at hc
    rw [hclosed, hopen] at hc
    cases hc

/-- The books after a move that begins no call and ends no callback. -/
theorem Books.inner {m pool} (hb : h.Books w) (hm : m.isInner = true)
    (hp : Pool.Step h.now h.run.pool m pool) :
    Books w { h with run := { h.run with pool } } := by
  refine hb.withSame rfl rfl (fun line => by cases line <;> rfl) rfl (hp.closed_eq hm)
    (hb.jobs.step hp ?_) (hb.balanced.inner hb.jobs hm hp)
  cases m <;> first | rfl | cases hm

/-- A callback ends, and what is to be settled of its job is noted. -/
theorem Books.finished {i j since late failure run} (hb : h.Books w)
    (hi : h.run.pool.jobs[i]? = some j) (hs : j.stage = .running since late)
    (hrun : run = WorkerRun.settleJob
      { h.run with pool := h.run.pool.setStage i (.ended (j.resultOf late failure)) } j
      (.ofResult · (j.resultOf late failure))) : Books w { h with run } := by
  have hp : Pool.Step h.now h.run.pool (.finish i failure) _ := .finished hi hs
  have hjobs := hb.jobs.step hp rfl
  have hbalanced : Balanced run h.dispatched h.settled :=
    hrun ▸ hb.balanced.finished hb.jobs hi hs
  obtain ⟨settlements, hsettle⟩ := WorkerRun.exists_settleJob
    { h.run with pool := h.run.pool.setStage i (.ended (j.resultOf late failure)) } j
    (.ofResult · (j.resultOf late failure))
  rw [hsettle] at hrun
  subst hrun
  exact hb.withSame rfl rfl (fun line => by cases line <;> rfl) rfl rfl (hjobs.congr rfl rfl)
    hbalanced

theorem Books.setDispatcher {line next run} (hb : h.Books w)
    (hold : h.run.dispatchers.get line ≠ .ended)
    (hrun : ∃ settlements, run = { h.run with settlements }.setDispatcher line next)
    (hjobs : JobsAccount w run h.dispatched) (hbalanced : Balanced run h.dispatched h.settled)
    (hdry : line = .tasks → next = .ended → h.run.isDry) : Books w { h with run } := by
  obtain ⟨settlements, rfl⟩ := hrun
  refine hb.withRun rfl rfl hjobs hbalanced ?_ ?_
  · intro hd
    have hdry' : h.run.isDry := by
      by_cases hline : line = .tasks
      · subst hline
        rw [WorkerRun.get_setDispatcher_self] at hd
        exact hdry rfl hd
      · rw [WorkerRun.get_setDispatcher_of_ne hline] at hd
        exact hb.dry hd
    exact hdry'.congr rfl fun line => by cases line <;> rfl
  · intro hc
    change h.run.pool.closed = true at hc
    rw [hb.not_closed hold] at hc
    cases hc

theorem Books.tickers {tickers} (hb : h.Books w) (hres : tickers.result? = h.run.tickers.result?) :
    Books w { h with run := { h.run with tickers } } :=
  hb.withSame rfl rfl (fun line => by cases line <;> first | rfl | exact hres) rfl rfl
    (hb.jobs.congr rfl rfl) hb.balanced

theorem Books.cleanup {cleanup} (hb : h.Books w) (hres : cleanup.result? = h.run.cleanup.result?) :
    Books w { h with run := { h.run with cleanup } } :=
  hb.withSame rfl rfl (fun line => by cases line <;> first | rfl | exact hres) rfl rfl
    (hb.jobs.congr rfl rfl) hb.balanced

theorem Books.submitOther {line s run} (hb : h.Books w) (hline : line ≠ .tasks)
    (hidle : h.run.dispatchers.get line = .idle)
    (hs : WorkerRun.Submits h.now h.run line s run) (hsubject : s.subject.task? = none) :
    Books w { h with run } := by
  have hjobs : JobsAccount w run (h.dispatched ++ []) :=
    hb.jobs.submit hidle hs (by simp [hsubject, hline]) (by simp [hline]) (by simp)
  rw [List.append_nil] at hjobs
  have hbalanced := hb.balanced.submitOther hb.jobs hline hs
  obtain ⟨j₀, -, -, rfl⟩ := JobsAccount.exists_of_submits hs
  refine hb.withRun rfl rfl hjobs hbalanced ?_ ?_
  · intro hd
    rw [WorkerRun.get_setDispatcher_of_ne hline] at hd
    exact (hb.dry hd).congr rfl fun line => by cases line <;> rfl
  · intro hc
    change h.run.pool.closed = true at hc
    rw [hb.not_closed (by rw [hidle]; simp)] at hc
    cases hc

theorem Books.submitTask {moment t tasks handler run} (hb : h.Books w)
    (hidle : h.run.dispatchers.get .tasks = .idle)
    (ht : h.run.tasks.receive? = some (t, tasks)) (hexpired : t.statusAt moment ≠ .expired)
    (hhandler : w.queues.find? t.queue = some handler)
    (hs : WorkerRun.Submits h.now { h.run with tasks } .tasks
      (.ofTask w.manager.worker t moment (handler t)) run) :
    Books w { h with
      dispatched := h.dispatched ++ [⟨t, moment, .submitted h.run.pool.jobs.length⟩]
      run } := by
  have hjobs₀ : JobsAccount w { h.run with tasks } h.dispatched := hb.jobs.congr rfl rfl
  have hbalanced₀ : Balanced { h.run with tasks } h.dispatched h.settled := hb.balanced
  obtain ⟨j₀, hj₀, -, hrun⟩ := JobsAccount.exists_of_submits hs
  have hfits : Dispatched.Fits w run.pool ⟨t, moment, .submitted h.run.pool.jobs.length⟩ := by
    subst hrun
    exact ⟨hexpired, by simp [hhandler], j₀, List.getElem?_concat_length, hj₀⟩
  refine hb.dispatch hidle ht (by rw [hrun]; rfl) rfl ?_ ?_ ?_ (by rw [hrun]; rfl)
  · exact hjobs₀.submit hidle hs (by simp [Submission.ofTask, Subject.task?])
      (by simp [Dispatched.job?]) (by simpa using hfits)
  · exact hbalanced₀.submitTask hjobs₀ hidle hs rfl rfl
  · rw [hrun, WorkerRun.get_setDispatcher_self]
    simp

theorem note_dispatch {moment t tasks} (ht : h.run.tasks.receive? = some (t, tasks)) :
    h.note w (.dispatch .tasks moment) = { h with
      dispatched := h.dispatched ++ [⟨t, moment, outcomeOf w h.run.pool t moment⟩] } := by
  simp [note, dispatching, ht]

/-- Every move of a run keeps its books. -/
theorem Books.move {m run} (hb : h.Books w) (hr : WorkerRun.Step w h.now h.run m run) :
    Books w { h.note w m with run } := by
  have hjobs (tasks : TaskLoop) : JobsAccount w { h.run with tasks } h.dispatched :=
    hb.jobs.congr rfl rfl
  have hbalanced (tasks : TaskLoop) :
      Balanced { h.run with tasks } h.dispatched h.settled := hb.balanced
  cases hr with
  | taskLoop hres hl => exact hb.taskLoop hres hl
  | tickerLoop hres _ | cleanupLoop hres _ =>
      exact hb.withRun rfl rfl (hb.jobs.congr rfl rfl) hb.balanced
        (fun hd => isDry_of_loops (hb.dry hd) rfl hres) hb.closed
  | @skipped moment t tasks hidle ht hexpired =>
      rw [note_dispatch ht]
      simp only [outcomeOf, hexpired, if_true]
      refine hb.dispatch hidle ht rfl rfl ((hjobs tasks).append hexpired rfl) ?_
        (by simp [hidle]) rfl
      simpa [Balanced, Dispatched.settlement?] using hbalanced tasks
  | @unhandled moment t tasks hidle ht hexpired hnone =>
      rw [note_dispatch ht]
      simp only [outcomeOf, hexpired, if_false, hnone, Option.isNone_none, if_true]
      have hfits : Dispatched.Fits w h.run.pool ⟨t, moment, .unhandled⟩ := ⟨hexpired, hnone⟩
      refine hb.dispatch hidle ht rfl rfl (((hjobs tasks).append hfits rfl).congr rfl rfl) ?_
        (by simp [WorkerRun.settle, hidle]) rfl
      refine Balanced.settle_iff.mpr ?_
      simpa [Dispatched.settlement?] using (hbalanced tasks).append_right _
  | @submitted moment t tasks handler _ hidle ht hexpired hsome hs =>
      rw [note_dispatch ht]
      simp only [outcomeOf, hexpired, if_false, hsome, Option.isNone_some, Bool.false_eq_true]
      exact hb.submitTask hidle ht hexpired hsome hs
  | tickerSkipped _ ht _ => exact hb.tickers (TickerLoop.receive?_result? ht)
  | tickerSubmitted hidle ht _ hs =>
      exact (hb.tickers (TickerLoop.receive?_result? ht)).submitOther (by simp) hidle hs rfl
  | cleanupSubmitted hidle ht hs =>
      exact (hb.cleanup (TickerLoop.receive?_result? ht)).submitOther (by simp) hidle hs rfl
  | @accepted line i j hd hi hwaiting hrefused =>
      have hold : h.run.dispatchers.get line ≠ .ended := by simp [hd]
      refine hb.setDispatcher hold ⟨h.run.settlements, rfl⟩ ?_ ?_ (by simp)
      · refine hb.jobs.setDispatcher (by simp) fun i' j' hd' hi' => ?_
        cases hd.symm.trans hd'
        cases hi.symm.trans hi'
        simpa [Job.isWaiting] using hwaiting
      · refine hb.balanced.setDispatcher (by simp) fun hline => ?_
        subst hline
        have hnone : j.refusal? = none := by
          unfold Job.refusal?
          split
          · exact absurd ‹_› (hrefused _)
          · rfl
        simp [WorkerRun.unheard, hd, hi, hnone]
  | @refused line i j why hd hi hs =>
      have hold : h.run.dispatchers.get line ≠ .ended := by simp [hd]
      have hbal := hb.balanced.refused hb.jobs hd hi hs
      obtain ⟨settlements, hsettle⟩ := h.run.exists_settleJob j .giveBack
      rw [hsettle] at hbal ⊢
      refine hb.setDispatcher hold ⟨settlements, rfl⟩ ?_ hbal (by simp)
      have hsame : JobsAccount w { h.run with settlements } h.dispatched :=
        hb.jobs.congr rfl rfl
      refine hsame.setDispatcher (by simp) fun i' j' hd' hi' => ?_
      cases hd.symm.trans hd'
      cases hi.symm.trans hi'
      simp [Job.isWaiting, hs]
  | @left line hidle hempty hfed =>
      have hold : h.run.dispatchers.get line ≠ .ended := by simp [hidle]
      refine hb.setDispatcher hold ⟨h.run.settlements, rfl⟩ ?_ ?_ ?_
      · refine hb.jobs.setDispatcher (by simp) fun i' j' hd' => ?_
        rw [hidle] at hd'
        cases hd'
      · refine hb.balanced.setDispatcher (by simp) fun hline => ?_
        subst hline
        simp [WorkerRun.unheard, hidle]
      · rintro rfl -
        exact ⟨List.isEmpty_iff.mp hempty, hfed⟩
  | finished hi hs => exact hb.finished hi hs rfl
  | pool hm hp => exact hb.inner hm hp
  | closed hdispatched _ =>
      have hp : Pool.Step h.now h.run.pool .close _ := .closed
      exact hb.withRun rfl rfl (hb.jobs.step hp rfl) hb.balanced
        (fun hd => (hb.dry hd).congr rfl fun line => by cases line <;> rfl) fun _ => hdispatched
  | @settled _ s settlements hs =>
      have hbal : Balanced { h.run with settlements } h.dispatched (h.settled ++ [s]) := by
        have hbefore := hb.balanced
        unfold Balanced at hbefore ⊢
        rw [hs] at hbefore
        change (h.settled ++ [s] ++ settlements ++ h.run.unheard).Perm _
        simpa using hbefore
      have hnote (result) : h.note w (.settled result) =
          { h with settled := h.settled ++ [s] } := by simp [note, hs]
      rw [hnote]
      exact ⟨⟨hb.loop.claimed, hb.loop.phase⟩, hb.attached, hb.delivered,
        hb.jobs.congr rfl rfl, hbal,
        fun hd => (hb.dry hd).congr rfl fun line => by cases line <;> rfl, hb.closed⟩
  | notified =>
      exact hb.withSame rfl rfl (fun line => by cases line <;> rfl) rfl rfl (hjobs _) (hbalanced _)
  | cancelled =>
      have hp : Pool.Step h.now h.run.pool .cancel _ := .cancelled
      exact hb.withSame rfl rfl (fun line => by cases line <;> rfl) rfl rfl (hb.jobs.step hp rfl)
        hb.balanced

theorem Books.moved {m} (hb : h.Books w) (hs : h.move? w m = some h') : h'.Books w := by
  obtain ⟨run, hr, rfl⟩ := move?_eq_some hs
  exact hb.move hr

/-- The books do not say which attempts there were. -/
theorem Books.attempt {s asked} (hb : h.Books w) : (h.attempt s asked).Books w :=
  ⟨hb.loop, hb.attached, hb.delivered, hb.jobs, hb.balanced, hb.dry, hb.closed⟩

theorem Books.step {e} (hb : h.Books w) (hs : step? w e h = some h') : h'.Books w := by
  cases e with
  | turn replies lost =>
      obtain ⟨⟨asked, m⟩, -, hs⟩ := Option.bind_eq_some_iff.mp hs
      exact hb.attempt.moved hs
  | settle replies lost =>
      obtain ⟨s, -, hs⟩ := Option.bind_eq_some_iff.mp hs
      exact hb.attempt.moved hs
  | move m =>
      obtain ⟨-, run, hr, rfl⟩ := step?_move hs
      exact hb.move hr
  | pass nanos =>
      cases hs
      exact ⟨hb.loop, hb.attached, hb.delivered, hb.jobs, hb.balanced, hb.dry, hb.closed⟩
  | disconnect =>
      cases hs
      exact hb.withSame rfl rfl (fun line => by cases line <;> rfl) rfl rfl
        (hb.jobs.congr rfl rfl) hb.balanced

theorem Books.run {es} (hb : h.Books w) (hs : after? (step? w) es h = some h') : h'.Books w :=
  after?_preserves (fun hs hb => Books.step hb hs) hs hb

end WorkerHistory

end TaskQueue
