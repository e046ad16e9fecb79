import TaskQueue.Proofs.Worker.Clock
import TaskQueue.Proofs.Worker.Settled

/-!
# Periods that a worker can keep

The poll interval and the ticker period of a worker are taken from its options as they are. A worker
stays in time with every period that is not too long for the clock, and with a poll interval that is
not zero. With any other it does not: it cannot begin to run, or its first late poll leads beyond
the clock.
-/

namespace TaskQueue

variable {w : Worker} {now : Instant}

/-! ## The start -/

namespace WorkerRun

/-- The run that begins at an instant if the timer has a period. -/
def started (w : Worker) (now : Instant) (jitter cleanupJitter : Span) : WorkerRun where
  tasks :=
    { phase := if w.queues.isEmpty then .ended (.ok ()) else .subscribing
      stream := { timer := ⟨w.pollInterval, now⟩ }
      channel := .single }
  tickers :=
    if w.tickers.isEmpty then noTickers w now else .start w.tickerPeriod .single now jitter
  cleanup := .start w.tickerPeriod .single now cleanupJitter
  pool := .ofSize w.concurrency

theorem start_eq_started {jitter cleanupJitter} (hpoll : w.queues = [] ∨ w.pollInterval ≠ .zero) :
    start w now jitter cleanupJitter = .ok (started w now jitter cleanupJitter) := by
  unfold start started TaskLoop.start SignalStream.start Ticking.start
  cases hqueues : w.queues with
  | nil => rfl
  | cons queue queues =>
      have hperiod : w.pollInterval ≠ .zero := hpoll.resolve_left (by simp [hqueues])
      simp only [hperiod, if_false]
      rfl

/-- A worker with a queue cannot begin to run if its timer has no period. -/
theorem start_eq_error {jitter cleanupJitter} (hqueues : w.queues ≠ [])
    (hpoll : w.pollInterval = .zero) :
    start w now jitter cleanupJitter = .error .noPeriod := by
  cases hw : w.queues with
  | nil => exact absurd hw hqueues
  | cons queue queues =>
      simp only [start, TaskLoop.start, SignalStream.start, Ticking.start, hpoll, hw]
      rfl

theorem forall_started {P : TickerLoop → Prop} {jitter cleanupJitter}
    (hcleanup : P (.start w.tickerPeriod .single now cleanupJitter))
    (htickers : P (.start w.tickerPeriod .single now jitter)) (hnone : P (noTickers w now)) :
    ∀ line, ∀ l ∈ (started w now jitter cleanupJitter).tickerLoop? line, P l := by
  intro line l hl
  cases line with
  | tasks => cases hl
  | cleanup =>
      cases hl
      exact hcleanup
  | tickers =>
      cases hl
      unfold started
      dsimp only
      split
      · exact hnone
      · exact htickers

theorem OnClock.started {jitter cleanupJitter} (hpoll : w.queues = [] ∨ w.pollInterval.IsOnClock)
    (hperiod : w.tickerPeriod.IsOnClock) (hnow : now ≤ Instant.horizon) :
    (started w now jitter cleanupJitter).OnClock := by
  constructor
  case tasks =>
    intro hrun
    cases hqueues : w.queues with
    | nil => simp [WorkerRun.started, TaskLoop.result?, hqueues] at hrun
    | cons queue queues =>
        refine ⟨hpoll.resolve_left (by simp [hqueues]), ?_⟩
        exact Nat.lt_of_le_of_lt hnow (by decide)
  case loops =>
    exact forall_started (P := TickerLoop.OnClock) (.start hperiod) (.start hperiod)
      (TickerLoop.OnClock.start hperiod).finish

theorem Stocked.started {jitter cleanupJitter} : (started w now jitter cleanupJitter).Stocked :=
  forall_started .start .start TickerLoop.Stocked.start.finish

end WorkerRun

namespace WorkerHistory

variable {h₀ : WorkerHistory}

theorem start_eq_started {jitter cleanupJitter} (hpoll : w.queues = [] ∨ w.pollInterval ≠ .zero) :
    start w now jitter cleanupJitter =
      .ok { now, run := .started w now jitter cleanupJitter } := by
  rw [start, WorkerRun.start_eq_started hpoll]
  rfl

theorem start_eq_error {jitter cleanupJitter} (hqueues : w.queues ≠ [])
    (hpoll : w.pollInterval = .zero) : start w now jitter cleanupJitter = .error .noPeriod := by
  rw [start, WorkerRun.start_eq_error hqueues hpoll]
  rfl

theorem started_of_start {jitter cleanupJitter} (hs : start w now jitter cleanupJitter = .ok h₀) :
    (w.queues = [] ∨ w.pollInterval ≠ .zero) ∧
      h₀ = { now, run := .started w now jitter cleanupJitter } := by
  by_cases hpoll : w.queues = [] ∨ w.pollInterval ≠ .zero
  · rw [start_eq_started hpoll] at hs
    exact ⟨hpoll, (Except.ok.inj hs).symm⟩
  · rw [not_or, not_not] at hpoll
    rw [start_eq_error hpoll.1 hpoll.2] at hs
    cases hs

end WorkerHistory

/-! ## Periods that are too long -/

theorem Ticking.take_due_of_late {t : Ticking} (hlate : t.due + tolerance < now) :
    (t.take now).due = now + t.period.nanos := by
  simp only [take, if_pos hlate]

namespace TaskLoop

variable {l : TaskLoop} {m : Manager} {lost : DatabaseError}

theorem take?_subscribing {cancelled} (hphase : l.phase = .subscribing) :
    l.take? m now cancelled [.empty] lost =
      some ([.listen (insertChannel m.ns)], .subscribed (.ok ())) := by
  simp only [take?, turn?, hphase]
  rfl

theorem take?_waiting {pull stream} {cancelled} (hphase : l.phase = .waiting)
    (hpull : l.stream.pull? now cancelled true = some (.signal pull, stream)) :
    l.take? m now cancelled [] lost = some ([], .pull true) := by
  simp only [take?, turn?, hphase, hpull]
  rfl

end TaskLoop

namespace WorkerHistory

variable {tasks : TaskLoop} {cleanup : TickerLoop} {attempts : List Attempt}

/-- The history of a worker that began at 0, with its task loop and its cleanup loop. -/
def early (w : Worker) (now : Instant) (tasks : TaskLoop) (cleanup : TickerLoop)
    (attempts : List Attempt) : WorkerHistory where
  now := now
  run := { WorkerRun.started w 0 .zero .zero with tasks, cleanup }
  attempts := attempts

theorem result?_early (htasks : ∀ e, tasks.result? ≠ some (.error e))
    (hcleanup : cleanup.result? = none) :
    (early w now tasks cleanup attempts).run.result? = none := by
  refine WorkerRun.result?_eq_none .cleanup hcleanup fun line e hfailed => ?_
  cases line with
  | tasks => exact htasks e hfailed
  | cleanup => cases hcleanup.symm.trans hfailed
  | tickers =>
      simp only [WorkerRun.loopResult?, early, WorkerRun.started] at hfailed
      split at hfailed <;> cases hfailed

theorem exists_earlyTurn {replies lost asked m tasks'} (htasks : tasks.result? = none)
    (hcleanup : cleanup.result? = none)
    (ht : tasks.take? w.manager now false replies lost = some (asked, m))
    (hl : tasks.step? now false m = some tasks')
    (hnote : TaskLoop.Record.note {} tasks m = {}) :
    ∃ attempts', step? w (.turn replies lost) (early w now tasks cleanup attempts) =
      some (early w now tasks' cleanup attempts') := by
  have hresult : (early w now tasks cleanup attempts).run.result? = none :=
    result?_early (by simp [htasks]) hcleanup
  have hstep : (early w now tasks cleanup attempts).run.step? w now (.taskLoop m) =
      some (early w now tasks' cleanup attempts).run := by
    have hl : (early w now tasks cleanup attempts).run.tasks.step? now
      (early w now tasks cleanup attempts).run.cancelled m = some tasks' := hl
    simp only [WorkerRun.step?, WorkerRun.whileFed, hresult, hl]
    rfl
  refine ⟨((early w now tasks cleanup attempts).attempt
    (early w now tasks cleanup attempts).handing asked).attempts, ?_⟩
  refine Option.bind_eq_some_iff.mpr ⟨_, ht, Option.map_eq_some_iff.mpr ⟨_, hstep, ?_⟩⟩
  simp [note, early, hnote, attempt]

/-- A run in which the timer ticks for the first time when some time is over. -/
def belatedPoll (now : Instant) : List Event := [.turn [.empty], .pass now, .turn []]

theorem exists_belatedPoll (hqueues : w.queues ≠ []) (hlate : Ticking.tolerance < now) :
    ∃ h, after? (step? w) (belatedPoll now) { now := 0, run := .started w 0 .zero .zero } = some h ∧
      h.now = now ∧ h.run.tasks.result? = none ∧
      h.run.tasks.stream.timer.due = now + w.pollInterval.nanos := by
  let subscribing : TaskLoop :=
    { phase := .subscribing, stream := { timer := ⟨w.pollInterval, 0⟩ }, channel := .single }
  let waiting : TaskLoop := { subscribing with phase := .waiting }
  let claiming : TaskLoop :=
    { subscribing with phase := .claiming, stream := waiting.stream.polled now }
  let cleanup : TickerLoop := .start w.tickerPeriod .single 0 .zero
  have hbegin : ({ now := 0, run := .started w 0 .zero .zero } : WorkerHistory) =
      early w 0 subscribing cleanup [] := by
    simp [early, WorkerRun.started, hqueues, subscribing, cleanup]
  obtain ⟨attempts, hlisten⟩ : ∃ attempts, step? w (.turn [.empty])
      (early w 0 subscribing cleanup []) = some (early w 0 waiting cleanup attempts) :=
    exists_earlyTurn rfl rfl (TaskLoop.take?_subscribing rfl) rfl rfl
  have hpass : step? w (.pass now) (early w 0 waiting cleanup attempts) =
      some (early w now waiting cleanup attempts) := by
    simp only [step?, early, Nat.zero_add]
  have hpull : waiting.stream.pull? now false true =
      some (.signal .polling, waiting.stream.polled now) := by
    simp [SignalStream.pull?, SignalStream.poll?, SignalStream.polled, waiting, subscribing]
  obtain ⟨attempts', hpoll⟩ : ∃ attempts', step? w (.turn [])
      (early w now waiting cleanup attempts) = some (early w now claiming cleanup attempts') := by
    refine exists_earlyTurn rfl rfl (TaskLoop.take?_waiting rfl hpull) ?_ rfl
    simp [TaskLoop.step?, waiting, subscribing, claiming, hpull]
  refine ⟨early w now claiming cleanup attempts', ?_, rfl, rfl, ?_⟩
  · rw [hbegin]
    exact after?_cons.mpr ⟨_, hlisten, after?_cons.mpr ⟨_, hpass, after?_cons.mpr ⟨_, hpoll, rfl⟩⟩⟩
  · exact Ticking.take_due_of_late (t := ⟨w.pollInterval, 0⟩) (by rwa [Nat.zero_add])

/-- A run in which the cleanup loop is told that there is no ticker when some time is over. -/
def belatedRest (now : Instant) : List Event :=
  [.pass now, .move (.cleanupLoop .wake), .move (.cleanupLoop (.answered (.ok none)))]

theorem exists_belatedRest (hlate : TickerLoop.startDelay.nanos ≤ now)
    (hbeyond : now.after? w.tickerPeriod = none) :
    ∃ h, after? (step? w) (belatedRest now) { now := 0, run := .started w 0 .zero .zero } = some h ∧
      h.now = now ∧ h.run.cleanup.phase = .overflowed := by
  let tasks : TaskLoop := (WorkerRun.started w 0 .zero .zero).tasks
  let sleeping : TickerLoop := .start w.tickerPeriod .single 0 .zero
  let asking : TickerLoop := { sleeping with phase := .asking }
  have htasks (e : OperationError) : tasks.result? ≠ some (.error e) := by
    simp only [tasks, WorkerRun.started, TaskLoop.result?]
    cases w.queues <;> simp
  have hpass : step? w (.pass now) (early w 0 tasks sleeping []) =
      some (early w now tasks sleeping []) := by
    simp only [step?, early, Nat.zero_add]
  have hwake : step? w (.move (.cleanupLoop .wake)) (early w now tasks sleeping []) =
      some (early w now tasks asking []) := by
    have hwakes : TickerLoop.startDelay.nanos + Span.zero.nanos ≤ now := hlate
    refine step?_cleanupLoop (result?_early htasks rfl) ?_
    change sleeping.step? now false .wake = _
    simp [TickerLoop.step?, sleeping, TickerLoop.start, hwakes, asking]
  have hrest : step? w (.move (.cleanupLoop (.answered (.ok none)))) (early w now tasks asking []) =
      some (early w now tasks (asking.rest now) []) :=
    step?_cleanupLoop (result?_early htasks rfl) rfl
  refine ⟨early w now tasks (asking.rest now) [], ?_, rfl, ?_⟩
  · exact after?_cons.mpr ⟨_, hpass, after?_cons.mpr ⟨_, hwake, after?_cons.mpr ⟨_, hrest, rfl⟩⟩⟩
  · change (asking.rest now).phase = _
    have hperiod : asking.period = w.tickerPeriod := rfl
    rw [TickerLoop.rest, hperiod, hbeyond]

end WorkerHistory

/-! ## Workers -/

namespace Worker

open WorkerHistory

/-- The worker can begin to run, and whatever happens then, neither its timer nor a ticker loop
comes to an instant beyond the clock, as long as the clock does not come past its horizon. -/
def StaysInTime (w : Worker) : Prop :=
  ∀ now jitter cleanupJitter, now ≤ Instant.horizon →
    ∃ h₀, start w now jitter cleanupJitter = .ok h₀ ∧
      ∀ es h, after? (step? w) es h₀ = some h → h.now ≤ Instant.horizon → h.InTime

/-- Whatever happens in a run of the worker with what a database keeps, all that is to be submitted
has a deadline on the clock, as long as the clock does not come past its horizon. -/
def MeetsDeadlines (w : Worker) : Prop :=
  ∀ now jitter cleanupJitter h₀ es h moment, start w now jitter cleanupJitter = .ok h₀ →
    after? (step? w) es h₀ = some h → (∀ e ∈ es, e.Stored) → (∀ t ∈ h.tasks.claimed, t.Dated) →
    h.now ≤ Instant.horizon → moment.Dated → ¬ h.run.Overruns w h.now moment

theorem meetsDeadlines (w : Worker) : w.MeetsDeadlines := by
  intro now jitter cleanupJitter h₀ es h moment hs hr hstored hclaimed hnow hmoment
  have hb : h.Books w := (Books.start hs).run hr
  obtain ⟨-, rfl⟩ := started_of_start hs
  have hstocked : h.run.Stocked := stocked_of_run hr .started hstored
  exact hstocked.not_overruns (fun t ht => hclaimed t (hb.mem_claimed ht)) hmoment hnow

theorem staysInTime (hpoll : w.queues = [] ∨ w.pollInterval ≠ .zero ∧ w.pollInterval.IsOnClock)
    (hperiod : w.tickerPeriod.IsOnClock) : w.StaysInTime := by
  intro now jitter cleanupJitter hnow
  refine ⟨_, start_eq_started (hpoll.imp_right And.left), fun es h hr hle => ?_⟩
  have hbegin : (WorkerRun.started w now jitter cleanupJitter).OnClock :=
    .started (hpoll.imp_right And.right) hperiod hnow
  exact inTime_of_onClock (onClock_of_run hr hbegin hle)

theorem StaysInTime.poll (hw : w.StaysInTime) :
    w.queues = [] ∨ w.pollInterval ≠ .zero ∧ w.pollInterval.IsOnClock := by
  obtain ⟨h₀, hs, hruns⟩ := hw 0 .zero .zero (Nat.zero_le _)
  obtain ⟨hpoll, rfl⟩ := started_of_start hs
  by_cases hqueues : w.queues = []
  · exact .inl hqueues
  refine .inr ⟨hpoll.resolve_left hqueues, ?_⟩
  -- The first tick is late, so that the next one is counted from the horizon.
  have hlate : Ticking.tolerance < Instant.horizon := by decide
  obtain ⟨h, hr, hnow, hrun, hdue⟩ := exists_belatedPoll hqueues hlate
  have hlimit := (hruns _ h hr (Nat.le_of_eq hnow)).timer hrun
  rwa [hdue, Nat.add_comm] at hlimit

theorem StaysInTime.period (hw : w.StaysInTime) : w.tickerPeriod.IsOnClock := by
  obtain ⟨h₀, hs, hruns⟩ := hw 0 .zero .zero (Nat.zero_le _)
  obtain ⟨-, rfl⟩ := started_of_start hs
  by_contra hbeyond
  -- Every worker polls cleanup tickers, with queues or without.
  have hlate : TickerLoop.startDelay.nanos ≤ Instant.horizon := by decide
  obtain ⟨h, hr, hnow, hphase⟩ := exists_belatedRest hlate (Span.after?_horizon hbeyond)
  exact (hruns _ h hr (Nat.le_of_eq hnow)).loops .cleanup h.run.cleanup rfl hphase

end Worker

namespace WorkerOptions

variable {o : WorkerOptions} {manager : Manager} {processors : Nat} {log : List Exchange}

def givenInterval (o : WorkerOptions) : Span := o.pollInterval.getD defaultPollInterval

theorem register_eq_nil_iff {Patch α : Type} {registered : Patch → Action String}
    {patches : List (Patch × (α → Work))} {handlers handlers' : Handlers α}
    (h : (register registered patches handlers).Holds log (.ok handlers')) :
    handlers' = [] ↔ patches = [] ∧ handlers = [] := by
  induction patches generalizing handlers log with
  | nil =>
      obtain ⟨-, hw⟩ := Operation.holds_pure.mp h
      cases hw
      simp
  | cons patch patches ih =>
      obtain ⟨name, _, _, -, -, hrest⟩ := Operation.holds_bind_ok.mp h
      rw [ih hrest]
      simp [Handlers.define]

theorem pollInterval_of_init (h : (o.init manager processors).Holds log (.ok w)) :
    w.pollInterval = o.givenInterval := by
  obtain ⟨_, _, _, -, rfl⟩ := exists_of_init h
  rfl

theorem queues_eq_nil_iff (h : (o.init manager processors).Holds log (.ok w)) :
    w.queues = [] ↔ o.queues = [] := by
  obtain ⟨_, _, _, hqueues, rfl⟩ := exists_of_init h
  simpa using register_eq_nil_iff hqueues

end WorkerOptions

/-! ## A worker with a queue -/

namespace WorkerHistory

def mailOptions (interval : Span) : WorkerOptions where
  concurrency := some 1
  pollInterval := some interval
  queues := [({ queue := "mail" }, fun _ => .external)]

/-- A server that has a queue already. -/
def mailServer : Dialogue.Server Unit
  | .run ⟨_, .insertQueue ..⟩, s | .run ⟨_, .insertTicker ..⟩, s => (.affected 0, s)
  | .run ⟨_, .findQueue ..⟩, s =>
    (.rows [[("ns", .text "default"), ("queue", .text "mail"), ("ttl", .null), ("retries", .int 3),
      ("retry_delay", .interval ⟨0, 0, 1000000⟩)]], s)
  | _, s => (.empty, s)

theorem exists_mailWorker (interval : Span) :
    ∃ log, ((mailOptions interval).init mailWorker.manager 1).Holds log
      (.ok { mailWorker with pollInterval := interval }) :=
  ⟨_, Dialogue.holds_said mailServer ((mailOptions interval).init mailWorker.manager 1).run ()⟩

end WorkerHistory

/-- A worker that was set up from options stays in time if and only if these give periods that the
clock has room for, and a poll interval that is not zero; the poll interval does not matter without
queues. The deadlines do not depend on the options. -/
theorem inTime_iff_of_init {o : WorkerOptions} {manager : Manager} {processors : Nat}
    {log : List Exchange} (hinit : (o.init manager processors).Holds log (.ok w)) :
    (w.StaysInTime ↔
      (o.queues = [] ∨ o.givenInterval ≠ .zero ∧ o.givenInterval.IsOnClock) ∧
        o.givenPeriod.IsOnClock) ∧
    w.MeetsDeadlines := by
  rw [← WorkerOptions.queues_eq_nil_iff hinit, ← WorkerOptions.pollInterval_of_init hinit,
    ← WorkerOptions.tickerPeriod_of_init hinit]
  refine ⟨⟨fun hw => ⟨hw.poll, hw.period⟩, ?_⟩, w.meetsDeadlines⟩
  rintro ⟨hpoll, hperiod⟩
  exact Worker.staysInTime hpoll hperiod

/-- A worker that looks for tasks once a second stays in time. -/
theorem mailWorker_stays_in_time :
    ∃ log w, ((WorkerHistory.mailOptions WorkerOptions.defaultPollInterval).init
        WorkerHistory.mailWorker.manager 1).Holds log (.ok w) ∧
      w.StaysInTime ∧ w.MeetsDeadlines := by
  obtain ⟨log, hinit⟩ := WorkerHistory.exists_mailWorker WorkerOptions.defaultPollInterval
  obtain ⟨hiff, hdeadlines⟩ := inTime_iff_of_init hinit
  exact ⟨log, _, hinit, hiff.mpr ⟨.inr ⟨by decide, by decide⟩, by decide⟩, hdeadlines⟩

/-- A poll interval of zero is accepted, and the worker cannot begin to run. -/
theorem zeroPoll_never_begins :
    ∃ log w, ((WorkerHistory.mailOptions .zero).init WorkerHistory.mailWorker.manager 1).Holds log
        (.ok w) ∧
      WorkerHistory.start w 0 .zero .zero = .error .noPeriod ∧ ¬ w.StaysInTime := by
  obtain ⟨log, hinit⟩ := WorkerHistory.exists_mailWorker .zero
  have hstart : WorkerHistory.start { WorkerHistory.mailWorker with pollInterval := .zero } 0 .zero
      .zero = .error .noPeriod :=
    WorkerHistory.start_eq_error (by simp [WorkerHistory.mailWorker]) rfl
  refine ⟨log, _, hinit, hstart, fun hw => ?_⟩
  obtain ⟨h₀, hs, -⟩ := hw 0 .zero .zero (Nat.zero_le _)
  rw [hstart] at hs
  cases hs

end TaskQueue
