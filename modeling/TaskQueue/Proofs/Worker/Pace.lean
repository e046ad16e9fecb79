import TaskQueue.Proofs.Database.Conversation
import TaskQueue.Proofs.TickerLoop.Pace
import TaskQueue.Proofs.Worker.Parts

/-!
# The pace of a worker

The loops of a worker that poll tickers are ticker loops: whatever happens to a worker, each of them
goes through a run of its own. So a worker polls as often as its loops do, with the ticker period of
its options, which are not checked.
-/

namespace TaskQueue

namespace WorkerRun

variable {w : Worker} {now : Instant} {r r' : WorkerRun} {m : Move} {line : Line} {l : TickerLoop}

/-- The loop of a line, unless it is the one of the tasks. -/
def tickerLoop? (r : WorkerRun) : Line → Option TickerLoop
  | .tasks => none
  | .tickers => some r.tickers
  | .cleanup => some r.cleanup

/-- What the ticker loop of a line does in a move. -/
def Move.tickerMove? : Move → Line → Option TickerLoop.Move
  | .tickerLoop m, .tickers | .cleanupLoop m, .cleanup => some m
  | _, _ => none

theorem setDispatcher_tickerLoop? {line' : Line} {d : Dispatcher} :
    (r.setDispatcher line' d).tickerLoop? line = r.tickerLoop? line := by
  cases line <;> rfl

theorem settleJob_tickerLoop? {j : Job Work} {f : Int64 → Settlement} :
    (r.settleJob j f).tickerLoop? line = r.tickerLoop? line := by
  unfold settleJob
  split <;> cases line <;> rfl

/-- A step moves the ticker loop of a line, leaves it alone, or takes a ticker from its channel. -/
theorem Step.tickerLoop? (h : Step w now r m r') (hl : r.tickerLoop? line = some l) :
    (∃ move l', m.tickerMove? line = some move ∧ l.step? now r.cancelled move = some l' ∧
      r'.tickerLoop? line = some l') ∨
    m.tickerMove? line = none ∧
      (r'.tickerLoop? line = some l ∨ m ≠ .cancel ∧
        ∃ t l', l.receive? = some (t, l') ∧ r'.tickerLoop? line = some l') := by
  cases h with
  | tickerLoop _ hm | cleanupLoop _ hm =>
      cases line <;> cases hl <;>
        first | exact .inr ⟨rfl, .inl rfl⟩ | exact .inl ⟨_, _, rfl, hm, rfl⟩
  | tickerSkipped _ ht =>
      cases line <;> cases hl <;>
        first | exact .inr ⟨rfl, .inl rfl⟩ | exact .inr ⟨rfl, .inr ⟨by simp, _, _, ht, rfl⟩⟩
  | tickerSubmitted _ ht _ hs | cleanupSubmitted _ ht hs =>
      obtain ⟨_, -, rfl⟩ := hs
      cases line <;> cases hl <;>
        first | exact .inr ⟨rfl, .inl rfl⟩ | exact .inr ⟨rfl, .inr ⟨by simp, _, _, ht, rfl⟩⟩
  | submitted _ _ _ _ hs =>
      obtain ⟨_, -, rfl⟩ := hs
      cases line <;> exact .inr ⟨rfl, .inl hl⟩
  | refused =>
      refine .inr ⟨rfl, .inl ?_⟩
      rw [setDispatcher_tickerLoop?, settleJob_tickerLoop?, hl]
  | finished =>
      refine .inr ⟨rfl, .inl ?_⟩
      rw [settleJob_tickerLoop?, ← hl]
      cases line <;> rfl
  | taskLoop | skipped | unhandled | accepted | left | pool | closed | settled | notified
  | cancelled => cases line <;> exact .inr ⟨rfl, .inl hl⟩

/-- A run goes on while a loop of it does and none has failed. -/
theorem result?_eq_none (line : Line) (hline : r.loopResult? line = none)
    (hwell : ∀ line e, r.loopResult? line ≠ some (.error e)) : r.result? = none := by
  have hfailure : r.failure? = none := by
    refine List.findSome?_eq_none_iff.mpr fun line _ => ?_
    split
    · exact absurd ‹_› (hwell line _)
    · rfl
  have hmore : (Line.all.all fun line => (r.loopResult? line).isSome) = false :=
    List.all_eq_false.mpr ⟨line, line.mem_all, by simp [hline]⟩
  simp [result?, hfailure, hmore]

end WorkerRun

/-! ## The run of a ticker loop -/

namespace WorkerHistory

variable {w : Worker} {h h' h₀ : WorkerHistory} {e : Event} {es : List Event} {line : Line}
  {g : TickerLoopHistory}

/-- The ticker loop of a line, with the clock and the cancellation of its worker. -/
structure Shows (h : WorkerHistory) (line : Line) (g : TickerLoopHistory) : Prop where
  now : g.now = h.now
  cancelled : g.cancelled = h.run.cancelled
  loop : h.run.tickerLoop? line = some g.loop

/-- The instants of the calls for a ticker that the loop of a line begins in a move. -/
def polledIn (line : Line) (now : Instant) (m : WorkerRun.Move) : List Instant :=
  match m.tickerMove? line with
  | some .wake => [now]
  | _ => []

def polled (line : Line) (e : Event) (h : WorkerHistory) : List Instant :=
  match e with
  | .move m => polledIn line h.now m
  | _ => []

/-- The instants at which the loop of a line began its calls for a ticker in a run. -/
def polls (w : Worker) (line : Line) (es : List Event) (h₀ : WorkerHistory) : List Instant :=
  gathered (step? w) (polled line) es h₀

theorem Shows.move {m : WorkerRun.Move} (hg : h.Shows line g)
    (hr : WorkerRun.Step w h.now h.run m h'.run) (hnow : h'.now = h.now) :
    ∃ fs g', after? TickerLoopHistory.step? fs g = some g' ∧ h'.Shows line g' ∧
      (TickerLoopHistory.polls fs g).map (·.instant) = polledIn line h.now m := by
  have hkept (hm : m ≠ .cancel) : g.cancelled = h'.run.cancelled := by
    rw [hg.cancelled, Bool.eq_iff_iff, hr.cancelled_iff]
    simp [hm]
  rcases hr.tickerLoop? hg.loop with ⟨move, l', hm, hl, hl'⟩ | ⟨hm, hl' | ⟨hne, t, l', hl, hl'⟩⟩
  · have hne : m ≠ .cancel := by
      rintro rfl
      cases line <;> cases hm
    refine ⟨[.move move], { g with loop := l', record := g.record.note g.loop move }, ?_,
      ⟨hg.now.trans hnow.symm, hkept hne, hl'⟩, ?_⟩
    · simp [TickerLoopHistory.step?, hg.now, hg.cancelled, hl]
    · cases move <;>
        simp [TickerLoopHistory.polls, TickerLoopHistory.polled, TickerLoopHistory.poll, polledIn,
          hm, hg.now]
  · by_cases hcancel : m = .cancel
    · have hc : h'.run.cancelled = true := hr.cancelled_iff.mpr (.inr hcancel)
      exact ⟨[.cancel], { g with cancelled := true }, after?_singleton,
        ⟨hg.now.trans hnow.symm, hc.symm, hl'⟩, by
          simp [TickerLoopHistory.polls, TickerLoopHistory.polled, polledIn, hm]⟩
    · exact ⟨[], g, rfl, ⟨hg.now.trans hnow.symm, hkept hcancel, hl'⟩, by
        simp [TickerLoopHistory.polls, gathered, polledIn, hm]⟩
  · refine ⟨[.receive], { g with loop := l', received := g.received ++ [t] }, ?_,
      ⟨hg.now.trans hnow.symm, hkept hne, hl'⟩, ?_⟩
    · simp [TickerLoopHistory.step?, hl]
    · simp [TickerLoopHistory.polls, TickerLoopHistory.polled, polledIn, hm]

theorem Shows.move? {m : WorkerRun.Move} (hg : h.Shows line g) (hs : h.move? w m = some h') :
    ∃ fs g', after? TickerLoopHistory.step? fs g = some g' ∧ h'.Shows line g' ∧
      (TickerLoopHistory.polls fs g).map (·.instant) = polledIn line h.now m := by
  obtain ⟨run, hr, rfl⟩ := move?_eq_some hs
  exact hg.move hr note_now

theorem Shows.attempt {s : Option Settlement} {asked : List Request} (hg : h.Shows line g) :
    (h.attempt s asked).Shows line g :=
  ⟨hg.now, hg.cancelled, hg.loop⟩

/-- What happens to a worker happens to the ticker loop of a line as a run of it. -/
theorem Shows.step (hg : h.Shows line g) (hs : step? w e h = some h') :
    ∃ fs g', after? TickerLoopHistory.step? fs g = some g' ∧ h'.Shows line g' ∧
      (TickerLoopHistory.polls fs g).map (·.instant) = polled line e h := by
  cases e with
  | turn replies lost =>
      obtain ⟨⟨asked, m⟩, -, hs⟩ := Option.bind_eq_some_iff.mp hs
      obtain ⟨fs, g', hfs, hg', hpolls⟩ := hg.attempt.move? hs
      exact ⟨fs, g', hfs, hg', hpolls.trans (by cases line <;> rfl)⟩
  | settle replies lost =>
      obtain ⟨s, -, hs⟩ := Option.bind_eq_some_iff.mp hs
      obtain ⟨fs, g', hfs, hg', hpolls⟩ := hg.attempt.move? hs
      exact ⟨fs, g', hfs, hg', hpolls.trans (by cases line <;> rfl)⟩
  | move m =>
      obtain ⟨-, run, hr, rfl⟩ := step?_move hs
      exact hg.move hr note_now
  | pass nanos =>
      cases hs
      exact ⟨[.pass nanos], { g with now := g.now + nanos }, after?_singleton,
        ⟨congrArg (· + nanos) hg.now, hg.cancelled, hg.loop⟩, rfl⟩
  | disconnect =>
      cases hs
      exact ⟨[], g, rfl, ⟨hg.now, hg.cancelled, by cases line <;> exact hg.loop⟩, rfl⟩

theorem exists_shown {now jitter cleanupJitter} (hs : start w now jitter cleanupJitter = .ok h₀)
    (hline : line ≠ .tasks) :
    ∃ g, h₀.Shows line g ∧ g.loop.period = w.tickerPeriod ∧ g.record.delivered = [] := by
  obtain ⟨run, hrun, rfl⟩ := start_eq_ok hs
  obtain ⟨-, -, -, -, hcleanup, htickers, -⟩ := WorkerRun.start_eq_ok hrun
  cases line with
  | tasks => exact absurd rfl hline
  | tickers =>
      refine ⟨{ now, cancelled := run.cancelled, loop := run.tickers }, ⟨rfl, rfl, rfl⟩, ?_, rfl⟩
      rw [htickers]
      split <;> rfl
  | cleanup =>
      refine ⟨{ now, cancelled := run.cancelled, loop := run.cleanup }, ⟨rfl, rfl, rfl⟩, ?_, rfl⟩
      rw [hcleanup]
      rfl

/-- The loop of a line keeps the pace of a loop that was given the ticker period of the worker. -/
theorem paced_of_run {now jitter cleanupJitter} (hs : start w now jitter cleanupJitter = .ok h₀)
    (hr : after? (step? w) es h₀ = some h) (hline : line ≠ .tasks) :
    ∃ g ps, h.Shows line g ∧ g.Paced w.tickerPeriod ps ∧
      ps.map (·.instant) = polls w line es h₀ := by
  refine after?_induction (P := fun es h => ∃ g ps, h.Shows line g ∧ g.Paced w.tickerPeriod ps ∧
    ps.map (·.instant) = polls w line es h₀) ?_ ?_ hr
  · obtain ⟨g, hg, hperiod, hdelivered⟩ := exists_shown hs hline
    exact ⟨g, [], hg, hperiod ▸ .fresh hdelivered, rfl⟩
  · rintro es e h h' hr hs ⟨g, ps, hg, hp, hps⟩
    obtain ⟨fs, g', hfs, hg', hpolled⟩ := hg.step hs
    refine ⟨g', ps ++ TickerLoopHistory.polls fs g, hg', hp.run hfs, ?_⟩
    rw [polls, gathered_snoc hr, List.map_append, hpolled, hps]
    rfl

theorem spaced_of_run {now jitter cleanupJitter} (hs : start w now jitter cleanupJitter = .ok h₀)
    (hr : after? (step? w) es h₀ = some h) (hline : line ≠ .tasks)
    (hle : PollPeriod.shortest ≤ w.tickerPeriod) : PollPeriod.Spaced (polls w line es h₀) := by
  obtain ⟨g, ps, -, hp, hps⟩ := paced_of_run hs hr hline
  exact hps ▸ hp.spaced hle

/-! ## A period that is too short -/

/-- A worker that began at 0, without queues and tickers, whose cleanup loop is in a phase. -/
def alone (w : Worker) (now : Instant) (phase : TickerLoop.Phase) : WorkerHistory where
  now := now
  run :=
    { tasks := .idle w.pollInterval .single 0
      tickers := WorkerRun.noTickers w 0
      cleanup := { TickerLoop.start w.tickerPeriod .single 0 .zero with phase }
      pool := .ofSize w.concurrency }

theorem start_alone (hqueues : w.queues = []) (htickers : w.tickers = []) :
    start w 0 .zero .zero = .ok (alone w 0 (.sleeping TickerLoop.startDelay.nanos)) := by
  simp only [start, WorkerRun.start, hqueues, htickers]
  rfl

theorem step?_cleanupLoop {m cleanup} (hresult : h.run.result? = none)
    (hl : h.run.cleanup.step? h.now h.run.cancelled m = some cleanup) :
    step? w (.move (.cleanupLoop m)) h = some { h with run := { h.run with cleanup } } := by
  have hstep : h.run.step? w h.now (.cleanupLoop m) = some { h.run with cleanup } := by
    simp only [WorkerRun.step?, WorkerRun.whileFed, hresult, hl]
    rfl
  exact Option.map_eq_some_iff.mpr ⟨_, hstep, rfl⟩

theorem step?_alone {now phase phase' m}
    (hphase : (alone w now phase).run.cleanup.result? = none)
    (hl : (alone w now phase).run.cleanup.step? now false m =
      some (alone w now phase').run.cleanup) :
    step? w (.move (.cleanupLoop m)) (alone w now phase) = some (alone w now phase') := by
  refine step?_cleanupLoop (WorkerRun.result?_eq_none .cleanup hphase ?_) hl
  intro line e hfailed
  cases line with
  | tasks | tickers => cases hfailed
  | cleanup => cases hphase.symm.trans hfailed

/-- A run of a worker in which the first call for a cleanup ticker gets none: the second one begins
after the ticker period. -/
def hurriedRun (period : Span) : List Event :=
  [.pass TickerLoop.startDelay.nanos, .move (.cleanupLoop .wake),
    .move (.cleanupLoop (.answered (.ok none))), .pass period.nanos, .move (.cleanupLoop .wake)]

theorem exists_hurriedRun (hqueues : w.queues = []) (htickers : w.tickers = [])
    (hlt : w.tickerPeriod < PollPeriod.shortest) :
    ∃ h₀ h, start w 0 .zero .zero = .ok h₀ ∧
      after? (step? w) (hurriedRun w.tickerPeriod) h₀ = some h ∧
      polls w .cleanup (hurriedRun w.tickerPeriod) h₀ =
        [TickerLoop.startDelay.nanos, TickerLoop.startDelay.nanos + w.tickerPeriod.nanos] := by
  have hrest : Instant.after? TickerLoop.startDelay.nanos w.tickerPeriod =
      some (TickerLoop.startDelay.nanos + w.tickerPeriod.nanos) :=
    TickerLoop.after?_startDelay hlt
  have hpass {now phase nanos} :
      step? w (.pass nanos) (alone w now phase) = some (alone w (now + nanos) phase) := rfl
  have hwake {now wakes} (hle : wakes ≤ now) :
      step? w (.move (.cleanupLoop .wake)) (alone w now (.sleeping wakes)) =
        some (alone w now .asking) :=
    step?_alone rfl (by simp [TickerLoop.step?, alone, hle])
  have hidle : step? w (.move (.cleanupLoop (.answered (.ok none))))
      (alone w TickerLoop.startDelay.nanos .asking) =
        some (alone w TickerLoop.startDelay.nanos
          (.sleeping (TickerLoop.startDelay.nanos + w.tickerPeriod.nanos))) :=
    step?_alone rfl (by simp [TickerLoop.step?, alone, TickerLoop.rest, TickerLoop.start, hrest])
  refine ⟨_, alone w (TickerLoop.startDelay.nanos + w.tickerPeriod.nanos) .asking,
    start_alone hqueues htickers, ?_, ?_⟩
  · simp [hurriedRun, after?, hpass, hwake, hidle]
  · have hnow {now phase} : (alone w now phase).now = now := rfl
    simp [hurriedRun, polls, gathered, hpass, hwake, hidle, polled, polledIn, hnow,
      WorkerRun.Move.tickerMove?]

end WorkerHistory

/-! ## The period of the options -/

namespace WorkerOptions

variable {o : WorkerOptions} {manager : Manager} {processors : Nat} {log : List Exchange}
  {w : Worker}

def givenPeriod (o : WorkerOptions) : Span := o.tickerPeriod.getD defaultTickerPeriod

/-- A worker is what its options say, with the callbacks under the names that were registered. -/
theorem exists_of_init (h : (o.init manager processors).Holds log (.ok w)) :
    ∃ queues tickers asked,
      (register (fun patch => Queue.queue <$> manager.registerQueue patch) o.queues []).Holds asked
        (.ok queues) ∧
      w = { manager, queues, tickers
            concurrency := o.concurrency.getD processors
            pollInterval := o.pollInterval.getD defaultPollInterval
            tickerPeriod := o.givenPeriod } := by
  obtain ⟨r, hop, hr⟩ := Operation.holds_mapError.mp h
  cases r with
  | error e => cases hr
  | ok w' =>
      cases hr
      obtain ⟨queues, asked, _, -, hqueues, hop⟩ := Operation.holds_bind_ok.mp hop
      obtain ⟨tickers, _, _, -, -, hop⟩ := Operation.holds_bind_ok.mp hop
      obtain ⟨-, hw⟩ := Operation.holds_pure.mp hop
      cases hw
      exact ⟨queues, tickers, asked, hqueues, rfl⟩

/-- A worker takes over the ticker period of its options as it is. -/
theorem tickerPeriod_of_init (h : (o.init manager processors).Holds log (.ok w)) :
    w.tickerPeriod = o.givenPeriod := by
  obtain ⟨_, _, _, -, rfl⟩ := exists_of_init h
  rfl

/-- With nothing to register a worker is set up without a word to the server. -/
theorem holds_init (hqueues : o.queues = []) (htickers : o.tickers = []) :
    ∃ w, (o.init manager processors).Holds [] (.ok w) ∧ w.queues = [] ∧ w.tickers = [] := by
  obtain ⟨concurrency, pollInterval, tickerPeriod, _, _⟩ := o
  cases hqueues
  cases htickers
  exact ⟨_, .done, rfl, rfl⟩

end WorkerOptions

/-! ## The periods that keep calls apart -/

namespace PollPeriod

/-- Whatever happens to a loop that was given a period, its calls are the shortest period apart. -/
def SpacesLoops (period : Span) : Prop :=
  ∀ {capacity now jitter h₀ es h},
    TickerLoopHistory.start period capacity now jitter = .ok h₀ →
    after? TickerLoopHistory.step? es h₀ = some h →
    Spaced ((TickerLoopHistory.polls es h₀).map (·.instant))

/-- Whatever happens to a worker that was set up with a period, the calls of each of its ticker
loops are the shortest period apart. -/
def SpacesWorkers (period : Span) : Prop :=
  ∀ {o : WorkerOptions} {manager processors log w now jitter cleanupJitter h₀ es h line},
    o.givenPeriod = period → (o.init manager processors).Holds log (.ok w) →
    WorkerHistory.start w now jitter cleanupJitter = .ok h₀ →
    after? (WorkerHistory.step? w) es h₀ = some h → line ≠ .tasks →
    Spaced (WorkerHistory.polls w line es h₀)

variable {period : Span}

theorem spaced_pair {a b : Instant} : Spaced [a, b] ↔ a + shortest.nanos ≤ b := by
  simp [Spaced]

theorem spacesLoops_iff : SpacesLoops period ↔ shortest ≤ period := by
  constructor
  · intro hspaces
    by_contra hlt
    obtain ⟨h₀, h, hs, hr, hpolls⟩ :=
      TickerLoopHistory.exists_hurriedRun (Nat.lt_of_not_le hlt)
    have hspaced := hspaces hs hr
    rw [hpolls, spaced_pair] at hspaced
    exact hlt (Nat.le_of_add_le_add_left hspaced)
  · intro hle capacity now jitter h₀ es h hs hr
    exact ((TickerLoopHistory.Paced.start hs).run hr).spaced hle

theorem spacesWorkers_iff : SpacesWorkers period ↔ shortest ≤ period := by
  constructor
  · intro hspaces
    by_contra hlt
    let o : WorkerOptions := { tickerPeriod := some period }
    obtain ⟨w, hinit, hqueues, htickers⟩ :
        ∃ w, (o.init default 1).Holds [] (.ok w) ∧ w.queues = [] ∧ w.tickers = [] :=
      WorkerOptions.holds_init rfl rfl
    obtain rfl : w.tickerPeriod = period := WorkerOptions.tickerPeriod_of_init hinit
    obtain ⟨h₀, h, hs, hr, hpolls⟩ :=
      WorkerHistory.exists_hurriedRun hqueues htickers (Nat.lt_of_not_le hlt)
    have hspaced : Spaced (WorkerHistory.polls w .cleanup _ h₀) :=
      hspaces rfl hinit hs hr (by simp)
    rw [hpolls, spaced_pair] at hspaced
    exact hlt (Nat.le_of_add_le_add_left hspaced)
  · intro hle o manager processors log w now jitter cleanupJitter h₀ es h line hperiod hinit hs hr
      hline
    refine WorkerHistory.spaced_of_run hs hr hline ?_
    rwa [WorkerOptions.tickerPeriod_of_init hinit, hperiod]

end PollPeriod

/-- A call of a ticker loop follows the one before by the period that the loop was given, or by the
shortest period once a ticker was delivered. So for the calls of all loops with a period, and for
those of all workers that are set up with it, to be the shortest period apart, it must not be
shorter itself. -/
theorem polls_spaced_iff (period : Span) :
    (∀ {capacity now jitter h₀ es h},
      TickerLoopHistory.start period capacity now jitter = .ok h₀ →
      after? TickerLoopHistory.step? es h₀ = some h →
      (TickerLoopHistory.polls es h₀).IsChain (Poll.Follows period)) ∧
    (PollPeriod.SpacesLoops period ↔ PollPeriod.shortest ≤ period) ∧
    (PollPeriod.SpacesWorkers period ↔ PollPeriod.shortest ≤ period) :=
  ⟨fun hs hr => ((TickerLoopHistory.Paced.start hs).run hr).follows,
    PollPeriod.spacesLoops_iff, PollPeriod.spacesWorkers_iff⟩

/-- A loop with no period at all calls twice at one instant. -/
theorem hurriedRun_calls_at_once :
    (∃ h₀ h, TickerLoopHistory.start .zero 1 0 .zero = .ok h₀ ∧
      after? TickerLoopHistory.step? (TickerLoopHistory.hurriedRun .zero) h₀ = some h ∧
      (TickerLoopHistory.polls (TickerLoopHistory.hurriedRun .zero) h₀).map (·.instant) =
        [100000000, 100000000]) ∧
    ¬ PollPeriod.SpacesLoops .zero := by
  have hlt : Span.zero < PollPeriod.shortest := by decide
  refine ⟨TickerLoopHistory.exists_hurriedRun hlt, ?_⟩
  rw [PollPeriod.spacesLoops_iff]
  decide

end TaskQueue
