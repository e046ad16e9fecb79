import TaskQueue.Proofs.Pool.Cancellation
import TaskQueue.Proofs.TickerLoop.Step
import TaskQueue.Proofs.Worker.Books

/-!
# The parts of a run

What happens to a run happens to its pool by steps of the pool, so what these preserve holds of the
pool in every history. The loops stand still once a run has its result, and a run is cancelled from
the event on that cancels it.
-/

namespace TaskQueue

namespace WorkerRun

variable {w : Worker} {now : Instant} {r r' : WorkerRun} {m : Move}

theorem settleJob_pool {j : Job Work} {f : Int64 → Settlement} :
    (r.settleJob j f).pool = r.pool := by
  unfold settleJob
  split <;> rfl

theorem settleJob_cleanup {j : Job Work} {f : Int64 → Settlement} :
    (r.settleJob j f).cleanup = r.cleanup := by
  unfold settleJob
  split <;> rfl

theorem settleJob_loopResult? {j : Job Work} {f : Int64 → Settlement} (line : Line) :
    (r.settleJob j f).loopResult? line = r.loopResult? line := by
  unfold settleJob
  split <;> cases line <;> rfl

/-- What a step does to the pool is a step of the pool, which is cancelled only by the
cancellation. -/
theorem Step.pool_step (h : Step w now r m r') :
    r'.pool = r.pool ∧ m ≠ .cancel ∨
      ∃ move, Pool.Step now r.pool move r'.pool ∧ (move = .cancel ↔ m = .cancel) := by
  cases h with
  | submitted _ _ _ _ hs | tickerSubmitted _ _ _ hs | cleanupSubmitted _ _ hs =>
      obtain ⟨pool, hp, rfl⟩ := hs
      exact .inr ⟨_, hp, by simp⟩
  | refused => exact .inl ⟨settleJob_pool, by simp⟩
  | finished hj hs =>
      rw [settleJob_pool]
      exact .inr ⟨_, .finished hj hs, by simp⟩
  | @pool move _ hm hp =>
      refine .inr ⟨move, hp, ?_⟩
      cases move <;> simp [Pool.Move.isInner] at hm ⊢
  | closed => exact .inr ⟨_, .closed, by simp⟩
  | cancelled => exact .inr ⟨_, .cancelled, by simp⟩
  | taskLoop | tickerLoop | cleanupLoop | skipped | unhandled | tickerSkipped | accepted | left
  | settled | notified => exact .inl ⟨rfl, by simp⟩

theorem Step.cancelled_iff (h : Step w now r m r') :
    r'.cancelled = true ↔ r.cancelled = true ∨ m = .cancel := by
  unfold WorkerRun.cancelled
  rcases h.pool_step with ⟨hpool, hm⟩ | ⟨move, hp, hmove⟩
  · simp [hpool, hm]
  · rw [hp.cancelled_iff, hmove]

/-- The line whose loop makes a move. -/
def Move.line? : Move → Option Line
  | .taskLoop _ => some .tasks
  | .tickerLoop _ => some .tickers
  | .cleanupLoop _ => some .cleanup
  | _ => none

theorem Step.result?_of_line? {line : Line} (h : Step w now r m r') (hm : m.line? = some line) :
    r.result? = none := by
  cases h with
  | taskLoop hr | tickerLoop hr | cleanupLoop hr => exact hr
  | skipped | unhandled | submitted | tickerSkipped | tickerSubmitted | cleanupSubmitted | accepted
  | refused | left | finished | pool | closed | settled | notified | cancelled => cases hm

/-- Only its own moves change the result of a loop. -/
theorem Step.loopResult?_of_ne {line : Line} (h : Step w now r m r') (hm : m.line? ≠ some line) :
    r'.loopResult? line = r.loopResult? line := by
  have htasks {t tasks} (ht : r.tasks.receive? = some (t, tasks)) :
      tasks.result? = r.tasks.result? := by
    obtain ⟨_, -, rfl⟩ := TaskLoop.exists_of_receive? ht
    rfl
  cases h with
  | taskLoop | tickerLoop | cleanupLoop => cases line <;> first | rfl | exact absurd rfl hm
  | skipped _ ht | unhandled _ ht => cases line <;> first | rfl | exact htasks ht
  | submitted _ ht _ _ hs =>
      obtain ⟨_, -, rfl⟩ := hs
      cases line <;> first | rfl | exact htasks ht
  | tickerSkipped _ ht => cases line <;> first | rfl | exact TickerLoop.receive?_result? ht
  | tickerSubmitted _ ht _ hs | cleanupSubmitted _ ht hs =>
      obtain ⟨_, -, rfl⟩ := hs
      cases line <;> first | rfl | exact TickerLoop.receive?_result? ht
  | @refused _ _ j =>
      have hsettle := settleJob_loopResult? (r := r) (j := j) (f := .giveBack) line
      cases line <;> exact hsettle
  | finished =>
      rw [settleJob_loopResult?]
      cases line <;> rfl
  | accepted | left | pool | closed | settled | notified | cancelled => cases line <;> rfl

theorem Step.loopResult?_eq (h : Step w now r m r') (hr : r.result? ≠ none) (line : Line) :
    r'.loopResult? line = r.loopResult? line :=
  h.loopResult?_of_ne fun hm => hr (h.result?_of_line? hm)

end WorkerRun

namespace WorkerHistory

variable {w : Worker} {h h' : WorkerHistory} {e : Event} {es : List Event}

theorem note_now {m : WorkerRun.Move} : (h.note w m).now = h.now := by
  unfold note
  split <;> rfl

/-- What an event does to a run is a step, apart from what it does to the clock and to the stream of
the task loop. -/
theorem step?_run (hs : step? w e h = some h') :
    (∃ m, WorkerRun.Step w h.now h.run m h'.run ∧ h'.now = h.now ∧
      (e = .move .cancel ↔ m = .cancel)) ∨
    e ≠ .move .cancel ∧ h.now ≤ h'.now ∧
      ∃ stream, h'.run = { h.run with tasks := { h.run.tasks with stream } } := by
  cases e with
  | turn replies lost =>
      obtain ⟨⟨asked, m⟩, -, hs⟩ := Option.bind_eq_some_iff.mp hs
      obtain ⟨run, hr, rfl⟩ := move?_eq_some hs
      exact .inl ⟨_, hr, note_now, by simp⟩
  | settle replies lost =>
      obtain ⟨s, -, hs⟩ := Option.bind_eq_some_iff.mp hs
      obtain ⟨run, hr, rfl⟩ := move?_eq_some hs
      exact .inl ⟨_, hr, note_now, by simp⟩
  | move m =>
      obtain ⟨-, run, hr, rfl⟩ := step?_move hs
      exact .inl ⟨m, hr, note_now, by simp⟩
  | pass nanos =>
      cases hs
      exact .inr ⟨by simp, Nat.le_add_right .., h.run.tasks.stream, rfl⟩
  | disconnect =>
      cases hs
      exact .inr ⟨by simp, Nat.le_refl _, _, rfl⟩

/-- What the steps of a pool preserve, and the time that passes, is preserved in every history. -/
theorem pool_preserves {P : Instant → Pool Work → Prop}
    (hpass : ∀ {now later p}, now ≤ later → P now p → P later p)
    (hstep : ∀ {now p m p'}, Pool.Step now p m p' → P now p → P now p')
    (hr : after? (step? w) es h = some h') (hp : P h.now h.run.pool) : P h'.now h'.run.pool := by
  refine after?_preserves (P := fun h => P h.now h.run.pool) ?_ hr hp
  intro e h h' hs hp
  rcases step?_run hs with ⟨m, hr, hnow, -⟩ | ⟨-, hle, stream, hrun⟩
  · rw [hnow]
    rcases hr.pool_step with ⟨hpool, -⟩ | ⟨move, hmove, -⟩
    · rwa [hpool]
    · exact hstep hmove hp
  · rw [hrun]
    exact hpass hle hp

theorem cancelled_iff_mem (hr : after? (step? w) es h = some h') :
    h'.run.cancelled = true ↔ h.run.cancelled = true ∨ .move .cancel ∈ es := by
  refine after?_induction
    (P := fun es h' => h'.run.cancelled = true ↔ h.run.cancelled = true ∨ .move .cancel ∈ es)
    (by simp) ?_ hr
  intro es e t t' _ hs ih
  have hstep : t'.run.cancelled = true ↔ t.run.cancelled = true ∨ .move .cancel = e := by
    rcases step?_run hs with ⟨m, hr, -, he⟩ | ⟨he, -, stream, hrun⟩
    · rw [hr.cancelled_iff, ← he, eq_comm (a := e)]
    · simp [hrun, WorkerRun.cancelled, Ne.symm he]
  rw [hstep, ih, List.mem_append, List.mem_singleton, or_assoc]

/-- The loops stand still once they have a result between them. -/
theorem loopResult?_of_run (hr : after? (step? w) es h = some h') (hresult : h.run.result? ≠ none)
    (line : Line) : h'.run.loopResult? line = h.run.loopResult? line := by
  refine after?_preserves
    (P := fun h' => ∀ line, h'.run.loopResult? line = h.run.loopResult? line) ?_ hr
    (fun _ => rfl) line
  intro e t t' hs hsame line
  rcases step?_run hs with ⟨m, hr, -, -⟩ | ⟨-, -, stream, hrun⟩
  · have ht : t.run.result? ≠ none := by
      rw [WorkerRun.result?_congr hsame]
      exact hresult
    rw [hr.loopResult?_eq ht, hsame]
  · rw [hrun, ← hsame]
    cases line <;> rfl

theorem result?_of_run {r : Except OperationError Unit} (hr : after? (step? w) es h = some h')
    (hresult : h.run.result? = some r) : h'.run.result? = some r := by
  rw [WorkerRun.result?_congr (loopResult?_of_run hr (by simp [hresult])), hresult]

end WorkerHistory

end TaskQueue
