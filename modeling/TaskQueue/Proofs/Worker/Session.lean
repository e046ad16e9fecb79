import TaskQueue.Proofs.Worker.History
import TaskQueue.Worker.Session

/-!
# Sessions of a worker as histories

A session carries a run of a worker from turn to turn against a backlog. Each of its turns is an
event of a history, so its run is one that a history leads to, and what holds in every history holds
of the runs of sessions.
-/

namespace TaskQueue

namespace WorkerRun

variable {w : Worker} {now : Instant} {moment : Timestamp} {r : WorkerRun}

theorem of_orElse {α : Type} {a b : Option α} {c : α} (h : (a <|> b) = some c) :
    a = some c ∨ b = some c := by
  cases a with
  | none => exact .inr h
  | some => exact .inl h

/-- A turn of a run, which is a move for which nothing is asked, the attempt at the first
settlement, or a turn of one of the loops. -/
inductive Turn (w : Worker) (now : Instant) (r : WorkerRun) : Dialogue Move → Prop where
  | silent {m} : WorkerHistory.isTurn m = false → Turn w now r (.done m)
  | settles {s} : r.settlements.head? = some s →
      Turn w now r (Move.settled <$> (s.carryOut w.manager).run)
  | taskLoop {d} : r.tasks.turn? w.manager now r.cancelled = some d →
      Turn w now r (Move.taskLoop <$> d)
  | tickerLoop {d} : Turn w now r (Move.tickerLoop <$> d)
  | cleanupLoop {d} : Turn w now r (Move.cleanupLoop <$> d)

theorem dispatchMove?_isTurn {line m} (h : r.dispatchMove? moment line = some m) :
    WorkerHistory.isTurn m = false := by
  unfold dispatchMove? at h
  split at h
  · split at h <;> cases h
    rfl
  · split at h
    · cases h; rfl
    · split at h <;> cases h
      rfl
  · cases h

theorem loopTurn?_sound {d} (h : r.loopTurn? w now = some d) : Turn w now r d := by
  simp only [loopTurn?] at h
  split at h
  · cases h
  · rcases of_orElse h with h | h
    · obtain ⟨d, hd, rfl⟩ := Option.map_eq_some_iff.mp h
      exact .taskLoop hd
    · rcases of_orElse h with h | h
      · obtain ⟨d, -, rfl⟩ := Option.map_eq_some_iff.mp h
        exact .tickerLoop
      · obtain ⟨d, -, rfl⟩ := Option.map_eq_some_iff.mp h
        exact .cleanupLoop

theorem turn?_sound {d} (h : r.turn? w now moment = some d) : Turn w now r d := by
  unfold turn? at h
  rcases of_orElse h with h | h
  · obtain ⟨m, hm, rfl⟩ := Option.map_eq_some_iff.mp h
    obtain ⟨line, -, hline⟩ := List.exists_of_findSome?_eq_some hm
    exact .silent (dispatchMove?_isTurn hline)
  · rcases of_orElse h with h | h
    · obtain ⟨s, hs, rfl⟩ := Option.map_eq_some_iff.mp h
      exact .settles hs
    · split at h
      · cases h
        exact .silent rfl
      · exact loopTurn?_sound h

end WorkerRun

namespace WorkerSession

variable {h₀ : WorkerHistory} {s s' : WorkerSession} {fuel : Nat}

/-- A session with the clock and the run that a history leads to. -/
def FollowsFrom (h₀ : WorkerHistory) (s : WorkerSession) : Prop :=
  ∃ es h, after? (WorkerHistory.step? s.worker) es h₀ = some h ∧ h.now = s.now ∧ h.run = s.run

namespace FollowsFrom

/-- A session goes on from a history by an event of the history. -/
theorem event {e : WorkerHistory.Event} (hs : s.FollowsFrom h₀) (hworker : s'.worker = s.worker)
    (he : ∀ h : WorkerHistory, h.now = s.now → h.run = s.run →
      ∃ h', WorkerHistory.step? s.worker e h = some h' ∧ h'.now = s'.now ∧ h'.run = s'.run) :
    s'.FollowsFrom h₀ := by
  obtain ⟨es, h, hr, hnow, hrun⟩ := hs
  obtain ⟨h', hstep, hsame⟩ := he h hnow hrun
  rw [← hworker] at hr hstep
  exact ⟨es ++ [e], h', after?_snoc.mpr ⟨h, hr, hstep⟩, hsame⟩

/-- A move of the run for which nothing has to be asked. -/
theorem move {m run} (hs : s.FollowsFrom h₀) (hm : WorkerHistory.isTurn m = false)
    (hr : s.run.step? s.worker s.now m = some run) (hworker : s'.worker = s.worker)
    (hnow : s'.now = s.now) (hrun : s'.run = run) : s'.FollowsFrom h₀ := by
  refine hs.event (e := .move m) hworker fun h hn hl => ?_
  refine ⟨{ h.note s.worker m with run }, ?_, ?_, hrun.symm⟩
  · simp [WorkerHistory.step?, hm, WorkerHistory.move?, hn, hl, hr]
  · rw [hnow, ← hn]
    unfold WorkerHistory.note
    split <;> rfl

theorem takeTurn? {turn} (hs : s.FollowsFrom h₀) (hturn : s.run.Turn s.worker s.now turn)
    (ht : s.takeTurn? turn = some s') : s'.FollowsFrom h₀ := by
  obtain ⟨run, hr, ht⟩ := Option.bind_eq_some_iff.mp ht
  cases ht
  cases hturn with
  | silent hm => exact hs.move hm hr rfl rfl rfl
  | tickerLoop | cleanupLoop =>
      rw [Dialogue.run_map] at hr
      exact hs.move rfl hr rfl rfl rfl
  | @taskLoop d hd =>
      obtain ⟨replies, hhear⟩ := Dialogue.exists_hear_run Backlog.server d s.backlog
      rw [Dialogue.run_map] at hr
      refine hs.event (e := .turn replies) rfl fun h hn hl => ?_
      have htake : h.run.tasks.take? s.worker.manager h.now h.run.cancelled replies
          .connectionCrashed = some ((d.run Backlog.server s.backlog).log,
            (d.run Backlog.server s.backlog).result) := by
        simp [TaskLoop.take?, hn, hl, hd, hhear]
      rw [← hn, ← hl] at hr
      simp only [WorkerHistory.step?, htake, Option.bind_some, WorkerHistory.move?,
        WorkerHistory.attempt, hr, Option.map_some]
      exact ⟨_, rfl, hn, rfl⟩
  | @settles s₁ hhead =>
      obtain ⟨replies, hhear⟩ :=
        Dialogue.exists_hear_run Backlog.server (s₁.carryOut s.worker.manager).run s.backlog
      rw [Dialogue.run_map] at hr
      refine hs.event (e := .settle replies) rfl fun h hn hl => ?_
      rw [← hn, ← hl] at hr
      rw [← hl] at hhead
      simp only [WorkerHistory.step?, hhead, Option.bind_some, hhear, Option.getD_some,
        WorkerHistory.move?, WorkerHistory.attempt, hr, Option.map_some]
      exact ⟨_, rfl, hn, rfl⟩

theorem movePool? {m} (hs : s.FollowsFrom h₀) (ht : s.movePool? m = some s') :
    s'.FollowsFrom h₀ := by
  obtain ⟨run, hr, ht⟩ := Option.bind_eq_some_iff.mp ht
  cases ht
  exact hs.move rfl hr rfl rfl rfl

theorem stepSweep? {i} (hs : s.FollowsFrom h₀) (ht : s.stepSweep? i = some s') :
    s'.FollowsFrom h₀ := by
  obtain ⟨⟨j, sweep⟩, -, ht⟩ := Option.bind_eq_some_iff.mp ht
  dsimp only at ht
  split at ht
  · exact hs.movePool? ht
  · exact hs.movePool? ht
  · obtain ⟨turn, -, ht⟩ := Option.bind_eq_some_iff.mp ht
    obtain ⟨sweep, -, ht⟩ := Option.bind_eq_some_iff.mp ht
    cases ht
    exact hs

theorem step? (hs : s.FollowsFrom h₀) (ht : s.step? = some s') : s'.FollowsFrom h₀ := by
  rcases WorkerRun.of_orElse ht with ht | ht
  · obtain ⟨m, -, ht⟩ := Option.bind_eq_some_iff.mp ht
    exact hs.movePool? ht
  · rcases WorkerRun.of_orElse ht with ht | ht
    · obtain ⟨i, -, ht⟩ := List.exists_of_findSome?_eq_some ht
      exact hs.stepSweep? ht
    · obtain ⟨turn, hturn, ht⟩ := Option.bind_eq_some_iff.mp ht
      exact hs.takeTurn? (WorkerRun.turn?_sound hturn) ht

theorem settleFor (hs : s.FollowsFrom h₀) : (s.settleFor fuel).FollowsFrom h₀ := by
  induction fuel generalizing s with
  | zero => exact hs
  | succ fuel ih =>
      simp only [WorkerSession.settleFor]
      split
      · exact ih (hs.step? ‹_›)
      · exact hs

theorem settle (hs : s.FollowsFrom h₀) : s.settle.FollowsFrom h₀ := hs.settleFor

theorem tick (hs : s.FollowsFrom h₀) :
    FollowsFrom h₀ { s with now := s.now + Instant.ofMillis stepMillis }.settle := by
  refine FollowsFrom.settle ?_
  exact hs.event (e := .pass (Instant.ofMillis stepMillis)) rfl fun h hn hl =>
    ⟨_, rfl, congrArg (· + _) hn, hl⟩

theorem pass {steps} (hs : s.FollowsFrom h₀) : (s.pass steps).FollowsFrom h₀ := by
  induction steps generalizing s with
  | zero => exact hs
  | succ steps ih => exact ih hs.tick

theorem passUntilOver {steps} (hs : s.FollowsFrom h₀) :
    (s.passUntilOver steps).FollowsFrom h₀ := by
  induction steps generalizing s with
  | zero => exact hs
  | succ steps ih =>
      simp only [WorkerSession.passUntilOver]
      split
      · exact hs
      · exact ih hs.tick

theorem tell {m} (hs : s.FollowsFrom h₀) (hm : WorkerHistory.isTurn m = false) :
    (s.tell m).FollowsFrom h₀ := by
  unfold WorkerSession.tell
  cases hr : s.run.step? s.worker s.now m with
  | none => exact hs
  | some run => exact hs.move hm hr rfl rfl rfl

theorem cancel (hs : s.FollowsFrom h₀) : s.cancel.FollowsFrom h₀ := hs.tell (m := .cancel) rfl

theorem apply {e} (hs : s.FollowsFrom h₀) : (s.apply e).FollowsFrom h₀ := by
  have hpassed : FollowsFrom h₀ (s.pass (e.millis / stepMillis)) := hs.pass
  simp only [WorkerSession.apply]
  split
  · refine FollowsFrom.settle (FollowsFrom.cancel ?_)
    split
    · exact (hpassed.tell rfl).settle
    · exact hpassed
  · split
    · exact (hpassed.tell rfl).settle
    · exact hpassed

theorem watch {events} (hs : s.FollowsFrom h₀) : ∀ t ∈ s.watch events, t.FollowsFrom h₀ := by
  induction events generalizing s with
  | nil => simp [WorkerSession.watch]
  | cons e events ih =>
      intro t ht
      rcases List.mem_cons.mp ht with rfl | ht
      · exact hs.apply
      · exact ih hs.apply t ht

end FollowsFrom

end WorkerSession

end TaskQueue
