import TaskQueue.Proofs.Signal.History
import TaskQueue.Proofs.Time.Clock
import TaskQueue.Proofs.Worker.Drain
import TaskQueue.Proofs.Worker.Pace

/-!
# Workers and the end of the clock

A worker computes with the clock in three places: its timer is set for the next poll, its ticker
loops sleep until an instant, and the time that a task or a ticker is given ends at one. What comes
from the database is always in range. The options are taken as they are: the timer can do nothing
with a poll interval of zero, and a period that is too long leads beyond the clock.
-/

namespace TaskQueue

variable {now : Instant} {cancelled : Bool}

/-! ## The timer of the polls -/

/-- A timer whose next tick is on the clock, as are the ticks after it. -/
structure Ticking.OnClock (t : Ticking) : Prop where
  period : t.period.IsOnClock
  due : t.due < Instant.limit

theorem Ticking.OnClock.take {t : Ticking} (ht : t.OnClock) (hdue : t.due ≤ now)
    (hnow : now ≤ Instant.horizon) : (t.take now).OnClock := by
  refine ⟨ht.period, ?_⟩
  simp only [Ticking.take]
  split
  · exact ht.period.lt_limit hnow
  · exact ht.period.lt_limit (Nat.le_trans hdue hnow)

/-- A pull leaves the timer alone, unless it takes a tick that is due. -/
theorem SignalStream.Step.timer {reachable : Bool} {s s' : SignalStream} {p : Pull}
    (h : s.Step now cancelled reachable p s') :
    s'.timer = s.timer ∨ s.timer.due ≤ now ∧ s'.timer = s.timer.take now := by
  cases h with
  | woke _ hdue | polled _ _ _ _ hdue => exact .inr ⟨hdue, rfl⟩
  | stopped | read | reconnected | wentBlind => exact .inl rfl

namespace TaskLoop

variable {l l' : TaskLoop} {m : Move}

/-- Until a loop ends its timer is on the clock. -/
def OnClock (l : TaskLoop) : Prop :=
  l.result? = none → l.stream.timer.OnClock

theorem OnClock.congr (hl : l.OnClock) (hphase : l'.phase = l.phase)
    (htimer : l'.stream.timer = l.stream.timer) : l'.OnClock := by
  unfold OnClock result? at hl ⊢
  rwa [hphase, htimer]

theorem OnClock.step (hl : l.OnClock) (h : Step now cancelled l m l')
    (hnow : now ≤ Instant.horizon) : l'.OnClock := by
  have htimer := hl h.not_ended
  intro _
  cases h with
  | pulled _ hpull =>
      rcases (SignalStream.pull?_sound hpull).timer with hsame | ⟨hdue, htake⟩
      · exact hsame ▸ htimer
      · exact htake ▸ htimer.take hdue hnow
  | subscribed | setupFailed | claimed | delivered | givesBack | returned => exact htimer

end TaskLoop

/-! ## The sleep of the ticker loops -/

namespace TickerLoop

variable {l l' : TickerLoop} {m : Move} {period jitter : Span}

/-- A loop that does not sleep beyond the clock, now or later. -/
structure OnClock (l : TickerLoop) : Prop where
  phase : l.phase ≠ .overflowed
  period : l.period.IsOnClock

theorem OnClock.start (hperiod : period.IsOnClock) :
    (TickerLoop.start period .single now jitter).OnClock :=
  ⟨by simp [TickerLoop.start], hperiod⟩

theorem OnClock.finish {result : Except OperationError Unit} (hl : l.OnClock) :
    (l.finish result).OnClock :=
  ⟨by simp [TickerLoop.finish], hl.period⟩

theorem OnClock.rest (hperiod : l.period.IsOnClock) (hnow : now ≤ Instant.horizon) :
    (l.rest now).OnClock := by
  rw [TickerLoop.rest, hperiod.after? hnow]
  exact ⟨by simp, hperiod⟩

theorem OnClock.step (hl : l.OnClock) (h : Step now cancelled l m l')
    (hnow : now ≤ Instant.horizon) : l'.OnClock := by
  cases h with
  | stopped | failed | abandoned => exact hl.finish
  | woke | fired => exact ⟨by simp, hl.period⟩
  | idle => exact .rest hl.period hnow
  | delivered =>
      -- The new period is made of the old one and of the time since the last delivery.
      exact .rest (PollPeriod.adjust_isOnClock hl.period (Instant.spanTo_isOnClock hnow)) hnow

theorem OnClock.receive {t : Ticker} (hl : l.OnClock) (h : l.receive? = some (t, l')) :
    l'.OnClock := by
  obtain ⟨_, -, rfl⟩ := exists_of_receive? h
  exact ⟨hl.phase, hl.period⟩

/-- A loop whose tickers have intervals that the clock has room for. -/
structure Stocked (l : TickerLoop) : Prop where
  offered : ∀ t, l.phase = .offering t → t.IsOnClock
  items : ∀ t ∈ l.channel.items, t.IsOnClock

/-- A ticker that is returned comes from a row. -/
def Move.Stored : Move → Prop
  | .answered (.ok (some t)) => ∃ row, Ticker.ofRow row = .ok t
  | _ => True

theorem Stocked.start : (TickerLoop.start period .single now jitter).Stocked := by
  constructor <;> simp [TickerLoop.start, Channel.single]

theorem Stocked.finish {result : Except OperationError Unit} (hl : l.Stocked) :
    (l.finish result).Stocked :=
  ⟨by simp [TickerLoop.finish], hl.items⟩

theorem Stocked.rest (hitems : ∀ t ∈ l.channel.items, t.IsOnClock) : (l.rest now).Stocked := by
  -- A loop that rests offers nothing.
  refine ⟨fun t hoffered => ?_, by simpa using hitems⟩
  rcases rest_phase l now with ⟨_, hphase⟩ | hphase <;> cases hphase.symm.trans hoffered

theorem Stocked.step (hl : l.Stocked) (h : Step now cancelled l m l') (hm : m.Stored) :
    l'.Stocked := by
  cases h with
  | stopped | failed | abandoned => exact hl.finish
  | woke => exact ⟨by simp, hl.items⟩
  | idle => exact .rest hl.items
  | fired =>
      obtain ⟨row, ht⟩ := hm
      refine ⟨?_, hl.items⟩
      rintro _ ⟨⟩
      exact Ticker.isOnClock_of_row ht
  | @delivered t hphase _ =>
      refine .rest ?_
      simpa [adapt, Channel.push, or_imp, forall_and] using ⟨hl.items, hl.offered t hphase⟩

theorem Stocked.receive {t : Ticker} (hl : l.Stocked) (h : l.receive? = some (t, l')) :
    l'.Stocked := by
  obtain ⟨_, htake, rfl⟩ := exists_of_receive? h
  obtain ⟨items, hitems, rfl⟩ := Channel.take?_eq_some htake
  exact ⟨hl.offered, fun t ht => hl.items t (hitems ▸ List.mem_cons_of_mem _ ht)⟩

end TickerLoop

/-! ## Runs -/

namespace WorkerRun

variable {w : Worker} {r r' : WorkerRun} {m : Move}

/-- A run whose loops compute nothing that is beyond the clock. -/
structure OnClock (r : WorkerRun) : Prop where
  tasks : r.tasks.OnClock
  loops : ∀ line, ∀ l ∈ r.tickerLoop? line, l.OnClock

/-- A run whose tickers have intervals that the clock has room for. -/
def Stocked (r : WorkerRun) : Prop :=
  ∀ line, ∀ l ∈ r.tickerLoop? line, l.Stocked

/-- The tickers that a move returns come from rows. -/
def Move.Stored (m : Move) : Prop :=
  ∀ line, ∀ move ∈ m.tickerMove? line, move.Stored

theorem settleJob_tasks {j : Job Work} {f : Int64 → Settlement} :
    (r.settleJob j f).tasks = r.tasks := by
  unfold settleJob
  split <;> rfl

/-- A step moves the task loop, or leaves its phase and its timer alone. -/
theorem Step.taskLoop_cases (h : Step w now r m r') :
    (∃ move, TaskLoop.Step now r.cancelled r.tasks move r'.tasks) ∨
      r'.tasks.phase = r.tasks.phase ∧ r'.tasks.stream.timer = r.tasks.stream.timer := by
  cases h with
  | taskLoop _ hl => exact .inl ⟨_, hl⟩
  | skipped _ ht | unhandled _ ht =>
      obtain ⟨_, -, rfl⟩ := TaskLoop.exists_of_receive? ht
      exact .inr ⟨rfl, rfl⟩
  | submitted _ ht _ _ hs =>
      obtain ⟨_, -, rfl⟩ := TaskLoop.exists_of_receive? ht
      obtain ⟨_, -, rfl⟩ := hs
      exact .inr ⟨rfl, rfl⟩
  | tickerSubmitted _ _ _ hs | cleanupSubmitted _ _ hs =>
      obtain ⟨_, -, rfl⟩ := hs
      exact .inr ⟨rfl, rfl⟩
  | @refused line _ j =>
      have htasks : ((r.settleJob j .giveBack).setDispatcher line .idle).tasks = r.tasks :=
        settleJob_tasks
      rw [htasks]
      exact .inr ⟨rfl, rfl⟩
  | finished =>
      rw [settleJob_tasks]
      exact .inr ⟨rfl, rfl⟩
  | notified =>
      refine .inr ⟨rfl, ?_⟩
      simp only [TaskLoop.notify, SignalStream.notify]
      split <;> rfl
  | tickerLoop | cleanupLoop | tickerSkipped | accepted | left | pool | closed | settled
  | cancelled => exact .inr ⟨rfl, rfl⟩

/-- What the moves of the ticker loops preserve, and the reception of a ticker, a step preserves. -/
theorem Step.tickerLoops {P : TickerLoop → Prop} (h : Step w now r m r')
    (hmove : ∀ {line move l l'}, m.tickerMove? line = some move →
      TickerLoop.Step now r.cancelled l move l' → P l → P l')
    (hreceive : ∀ {t l l'}, l.receive? = some (t, l') → P l → P l')
    (hr : ∀ line, ∀ l ∈ r.tickerLoop? line, P l) : ∀ line, ∀ l ∈ r'.tickerLoop? line, P l := by
  intro line l' hl'
  obtain ⟨l, hl⟩ : ∃ l, r.tickerLoop? line = some l := by
    cases line with
    | tasks => cases hl'
    | tickers | cleanup => exact ⟨_, rfl⟩
  rcases h.tickerLoop? hl with ⟨move, _, hm, hs, hl₁⟩ | ⟨-, hl₁ | ⟨-, t, _, ht, hl₁⟩⟩
  all_goals cases hl'.symm.trans hl₁
  · exact hmove hm (TickerLoop.step?_sound hs) (hr line _ hl)
  · exact hr line _ hl
  · exact hreceive ht (hr line _ hl)

theorem OnClock.step (hr : r.OnClock) (h : Step w now r m r') (hnow : now ≤ Instant.horizon) :
    r'.OnClock := by
  constructor
  case tasks =>
    rcases h.taskLoop_cases with ⟨move, hl⟩ | ⟨hphase, htimer⟩
    · exact hr.tasks.step hl hnow
    · exact hr.tasks.congr hphase htimer
  case loops =>
    exact h.tickerLoops (P := TickerLoop.OnClock) (fun _ hs hl => hl.step hs hnow)
      (fun ht hl => hl.receive ht) hr.loops

theorem Stocked.step (hr : r.Stocked) (h : Step w now r m r') (hm : m.Stored) : r'.Stocked :=
  h.tickerLoops (P := TickerLoop.Stocked) (fun hmove hs hl => hl.step hs (hm _ _ hmove))
    (fun ht hl => hl.receive ht) hr

theorem OnClock.withStream {stream : SignalStream} (hr : r.OnClock)
    (htimer : stream.timer = r.tasks.stream.timer) :
    OnClock { r with tasks := { r.tasks with stream } } :=
  ⟨hr.tasks.congr rfl htimer, fun line l hl => hr.loops line l (by cases line <;> exact hl)⟩

theorem Stocked.withTasks {tasks : TaskLoop} (hr : r.Stocked) :
    Stocked { r with tasks } :=
  fun line l hl => hr line l (by cases line <;> exact hl)

end WorkerRun

/-! ## The time that is given -/

namespace Submission

variable {worker : String} {work : Work}

theorem isOnClock_ofTask {t : Task} {moment : Timestamp} (ht : t.Dated) (hmoment : moment.Dated) :
    ∀ limit ∈ (ofTask worker t moment work).limit, limit.IsOnClock := by
  refine Span.isOnClock_of_nonZero? fun d hd => ?_
  -- The time that is left ends at a date, and the clock has room for the time between two dates.
  obtain ⟨diesAt, hdies, rfl⟩ := Option.map_eq_some_iff.mp hd
  exact Timestamp.spanSince_isOnClock (ht.diesAt diesAt hdies) hmoment

theorem isOnClock_ofTicker {t : Ticker} (ht : t.IsOnClock) :
    ∀ limit ∈ (ofTicker worker t work).limit, limit.IsOnClock :=
  Span.isOnClock_of_nonZero? ht

end Submission

namespace WorkerRun

variable {w : Worker} {r : WorkerRun} {moment : Timestamp}

theorem Stocked.nextSubmission {line : Line} {s : Submission} (hr : r.Stocked)
    (htasks : ∀ t ∈ r.tasks.channel.items, t.Dated) (hmoment : moment.Dated)
    (hs : r.nextSubmission? w moment line = some s) : ∀ limit ∈ s.limit, limit.IsOnClock := by
  cases line with
  | tasks =>
      obtain ⟨t, ht, hs⟩ := Option.bind_eq_some_iff.mp hs
      split at hs
      · cases hs
      · obtain ⟨handler, -, hs⟩ := Option.bind_eq_some_iff.mp hs
        cases hs
        exact Submission.isOnClock_ofTask (htasks t (List.mem_of_head? ht)) hmoment
  | tickers =>
      obtain ⟨t, ht, hs⟩ := Option.bind_eq_some_iff.mp hs
      obtain ⟨handler, -, hs⟩ := Option.bind_eq_some_iff.mp hs
      cases hs
      exact Submission.isOnClock_ofTicker
        ((hr .tickers r.tickers rfl).items t (List.mem_of_head? ht))
  | cleanup =>
      obtain ⟨t, ht, rfl⟩ := Option.map_eq_some_iff.mp hs
      exact Submission.isOnClock_ofTicker
        ((hr .cleanup r.cleanup rfl).items t (List.mem_of_head? ht))

theorem Stocked.not_overruns (hr : r.Stocked) (htasks : ∀ t ∈ r.tasks.channel.items, t.Dated)
    (hmoment : moment.Dated) (hnow : now ≤ Instant.horizon) : ¬ r.Overruns w now moment := by
  rintro ⟨line, s, limit, hs, hlimit, hnone⟩
  have hon := hr.nextSubmission htasks hmoment hs limit hlimit
  rw [hon.after? hnow] at hnone
  cases hnone

end WorkerRun

/-! ## Histories -/

namespace WorkerHistory

variable {w : Worker} {h h' h₀ : WorkerHistory} {e : Event} {es : List Event}

/-- The tickers that the ticker loops are returned come from rows. -/
def Event.Stored : Event → Prop
  | .move m => m.Stored
  | _ => True

/-- What an event does to a run is a step, unless it leaves all but the stream alone. -/
theorem step?_cases (hs : step? w e h = some h') :
    (∃ m, WorkerRun.Step w h.now h.run m h'.run ∧ (e.Stored → m.Stored)) ∨
      ∃ stream, stream.timer = h.run.tasks.stream.timer ∧
        h'.run = { h.run with tasks := { h.run.tasks with stream } } := by
  cases e with
  | turn replies lost =>
      obtain ⟨⟨asked, m⟩, -, hs⟩ := Option.bind_eq_some_iff.mp hs
      obtain ⟨run, hr, rfl⟩ := move?_eq_some hs
      exact .inl ⟨_, hr, fun _ line _ hmove => by cases line <;> cases hmove⟩
  | settle replies lost =>
      obtain ⟨s, -, hs⟩ := Option.bind_eq_some_iff.mp hs
      obtain ⟨run, hr, rfl⟩ := move?_eq_some hs
      exact .inl ⟨_, hr, fun _ line _ hmove => by cases line <;> cases hmove⟩
  | move m =>
      obtain ⟨-, run, hr, rfl⟩ := step?_move hs
      exact .inl ⟨m, hr, id⟩
  | pass nanos =>
      cases hs
      exact .inr ⟨h.run.tasks.stream, rfl, rfl⟩
  | disconnect =>
      cases hs
      exact .inr ⟨h.run.tasks.stream.disconnect, rfl, rfl⟩

theorem now_le_of_step? (hs : step? w e h = some h') : h.now ≤ h'.now := by
  rcases step?_run hs with ⟨_, -, hnow, -⟩ | ⟨-, hle, -⟩
  · exact Nat.le_of_eq hnow.symm
  · exact hle

theorem onClock_of_run (hr : after? (step? w) es h₀ = some h) (hh : h₀.run.OnClock)
    (hnow : h.now ≤ Instant.horizon) : h.run.OnClock := by
  refine after?_preserves (P := fun h => h.now ≤ Instant.horizon → h.run.OnClock) ?_ hr
    (fun _ => hh) hnow
  intro e h h' hs hh hnow
  -- The clock does not go back, so it had not come past its horizon before.
  have hbefore : h.now ≤ Instant.horizon := Nat.le_trans (now_le_of_step? hs) hnow
  rcases step?_cases hs with ⟨m, hr, -⟩ | ⟨stream, htimer, hrun⟩
  · exact (hh hbefore).step hr hbefore
  · exact hrun ▸ (hh hbefore).withStream htimer

theorem stocked_of_run (hr : after? (step? w) es h₀ = some h) (hh : h₀.run.Stocked)
    (hstored : ∀ e ∈ es, e.Stored) : h.run.Stocked := by
  refine after?_induction (P := fun es h => (∀ e ∈ es, e.Stored) → h.run.Stocked) (fun _ => hh)
    ?_ hr hstored
  intro es e h h' _ hs hh hstored
  simp only [List.mem_append, List.mem_singleton, or_imp, forall_and, forall_eq] at hstored
  rcases step?_cases hs with ⟨m, hr, hm⟩ | ⟨stream, -, hrun⟩
  · exact (hh hstored.1).step hr (hm hstored.2)
  · exact hrun ▸ (hh hstored.1).withTasks

theorem Books.mem_claimed {t : Task} (hb : h.Books w) (ht : t ∈ h.run.tasks.channel.items) :
    t ∈ h.tasks.claimed := by
  rw [hb.loop.claimed, hb.delivered]
  simp [ht]

/-- Neither the timer nor a ticker loop has come to an instant beyond the clock. A task loop that
has ended asks its timer for nothing. -/
structure InTime (h : WorkerHistory) : Prop where
  timer : h.run.tasks.result? = none → h.run.tasks.stream.timer.due < Instant.limit
  loops : ∀ line, ∀ l ∈ h.run.tickerLoop? line, l.phase ≠ .overflowed

theorem inTime_of_onClock (hh : h.run.OnClock) : h.InTime where
  timer hrun := (hh.tasks hrun).due
  loops line l hl := (hh.loops line l hl).phase

end WorkerHistory

end TaskQueue
