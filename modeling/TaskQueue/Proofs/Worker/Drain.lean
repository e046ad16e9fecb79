import TaskQueue.Proofs.Pool.ExactlyOnce
import TaskQueue.Proofs.Worker.Parts

/-!
# How a run drains

What is left to do of a run whose loops are over: what is in the channels is dispatched, the pool
comes to the end of its jobs, and the settlements are carried out. Each move of the dispatchers, of
the pool and of the settlements leaves less to do, and as long as the run has not returned one of
them can be made, unless a callback runs.
-/

namespace TaskQueue

/-- How much a dispatcher leaves to do: to end, and before that to hear an answer, of which a
settlement may come. -/
def Dispatcher.remaining : Dispatcher → Nat
  | .submitting _ => 3
  | .idle => 1
  | .ended => 0

namespace WorkerRun

variable {w : Worker} {now : Instant} {r r' : WorkerRun} {m : Move} {line : Line}

def channelLength (r : WorkerRun) : Line → Nat
  | .tasks => r.tasks.channel.items.length
  | .tickers => r.tickers.channel.items.length
  | .cleanup => r.cleanup.channel.items.length

/-- How much there is to do on a line. What is in the channel may become a job, which the pool moves
four times, with an answer to its call and a settlement. -/
def remainingOn (r : WorkerRun) (line : Line) : Nat :=
  11 * r.channelLength line + (r.dispatchers.get line).remaining

/-- How much there is to do when the loops are over. A callback that ends may leave a settlement, so
the moves of the pool count twice. -/
def remaining (r : WorkerRun) : Nat :=
  (Line.all.map r.remainingOn).sum + 2 * r.pool.remaining + r.settlements.length +
    (!r.pool.closed).toNat

/-- Whether a move brings a run nearer to its end: one of the dispatchers, of the pool or of the
settlements. -/
def Move.drains : Move → Bool
  | .dispatch .. | .answered _ | .leave _ | .close | .settled _ => true
  | .pool m => m.advances
  | .taskLoop _ | .tickerLoop _ | .cleanupLoop _ | .notify _ | .cancel => false

/-! ## Every move leaves less to do -/

theorem remaining_setDispatcher (r : WorkerRun) (line : Line) (d : Dispatcher) :
    (r.setDispatcher line d).remaining + (r.dispatchers.get line).remaining =
      r.remaining + d.remaining := by
  cases line <;>
    simp [remaining, remainingOn, channelLength, Line.all, setDispatcher, Lines.get, Lines.set] <;>
    omega

theorem remaining_settle (r : WorkerRun) (s : Settlement) :
    (r.settle s).remaining = r.remaining + 1 := by
  simp [remaining, remainingOn, channelLength, Line.all, settle]
  omega

theorem remaining_settleJob_le (r : WorkerRun) (j : Job Work) (f : Int64 → Settlement) :
    (r.settleJob j f).remaining ≤ r.remaining + 1 := by
  unfold settleJob
  split
  · exact Nat.le_of_eq (r.remaining_settle _)
  · exact Nat.le_succ _

theorem remaining_withPool {pool : Pool Work} (hclosed : pool.closed = r.pool.closed) :
    WorkerRun.remaining { r with pool } + 2 * r.pool.remaining =
      r.remaining + 2 * pool.remaining := by
  simp [remaining, remainingOn, channelLength, Line.all, hclosed]
  omega

theorem remaining_receive {t tasks} (ht : r.tasks.receive? = some (t, tasks)) :
    WorkerRun.remaining { r with tasks } + 11 = r.remaining := by
  obtain ⟨items, hitems, rfl⟩ := TaskLoop.exists_of_receive? ht
  simp [remaining, remainingOn, channelLength, Line.all, hitems]
  omega

theorem remaining_receiveTicker {t tickers} (ht : r.tickers.receive? = some (t, tickers)) :
    WorkerRun.remaining { r with tickers } + 11 = r.remaining := by
  obtain ⟨_, htake, rfl⟩ := TickerLoop.exists_of_receive? ht
  obtain ⟨items, hitems, rfl⟩ := Channel.take?_eq_some htake
  simp [remaining, remainingOn, channelLength, Line.all, hitems]
  omega

theorem remaining_receiveCleanup {t cleanup} (ht : r.cleanup.receive? = some (t, cleanup)) :
    WorkerRun.remaining { r with cleanup } + 11 = r.remaining := by
  obtain ⟨_, htake, rfl⟩ := TickerLoop.exists_of_receive? ht
  obtain ⟨items, hitems, rfl⟩ := Channel.take?_eq_some htake
  simp [remaining, remainingOn, channelLength, Line.all, hitems]
  omega

/-- A submission adds a job to the pool, and its dispatcher has an answer to hear. -/
theorem Submits.remaining_le {s : Submission} (hs : Submits now r line s r')
    (hidle : r.dispatchers.get line = .idle) : r'.remaining ≤ r.remaining + 10 := by
  obtain ⟨j, -, -, rfl⟩ := JobsAccount.exists_of_submits hs
  let pool : Pool Work := { r.pool with jobs := r.pool.jobs ++ [j] }
  have hjob : pool.remaining ≤ r.pool.remaining + 4 := by
    have hfour : j.stage.remaining ≤ 4 := by
      unfold Stage.remaining
      split <;> omega
    simpa [pool, Pool.remaining] using hfour
  have hpool : WorkerRun.remaining { r with pool } + 2 * r.pool.remaining =
      r.remaining + 2 * pool.remaining := remaining_withPool rfl
  have hline := remaining_setDispatcher { r with pool } line (.submitting r.pool.jobs.length)
  have hbefore : Lines.get { r with pool }.dispatchers line = .idle := hidle
  simp only [hbefore, Dispatcher.remaining] at hline
  change (setDispatcher { r with pool } _ _).remaining ≤ _
  omega

theorem Step.remaining_lt (h : Step w now r m r') (hm : m.drains = true) :
    r'.remaining < r.remaining := by
  cases h with
  | taskLoop | tickerLoop | cleanupLoop | notified | cancelled => cases hm
  | skipped _ ht _ =>
      have hless := remaining_receive ht
      omega
  | @unhandled _ t tasks _ ht _ _ =>
      have hless := remaining_receive ht
      have hmore := remaining_settle { r with tasks } (.fail t.id (noHandlerMessage t.queue))
      omega
  | submitted hidle ht _ _ hs =>
      have hless := remaining_receive ht
      have hmore := hs.remaining_le hidle
      omega
  | tickerSkipped _ ht _ =>
      have hless := remaining_receiveTicker ht
      omega
  | tickerSubmitted hidle ht _ hs =>
      have hless := remaining_receiveTicker ht
      have hmore := hs.remaining_le hidle
      omega
  | cleanupSubmitted hidle ht hs =>
      have hless := remaining_receiveCleanup ht
      have hmore := hs.remaining_le hidle
      omega
  | @accepted line i _ hd _ _ _ =>
      have hline := r.remaining_setDispatcher line .idle
      simp only [hd, Dispatcher.remaining] at hline
      omega
  | @refused line i j _ hd _ _ =>
      obtain ⟨settlements, hsettle⟩ := r.exists_settleJob j .giveBack
      have hmore := r.remaining_settleJob_le j .giveBack
      have hline := (r.settleJob j .giveBack).remaining_setDispatcher line .idle
      have hd' : (r.settleJob j .giveBack).dispatchers.get line = .submitting i := by
        rw [hsettle]
        exact hd
      simp only [hd', Dispatcher.remaining] at hline
      omega
  | @left line hidle _ _ =>
      have hline := r.remaining_setDispatcher line .ended
      simp only [hidle, Dispatcher.remaining] at hline
      omega
  | @finished i j since late failure hj hs =>
      let pool : Pool Work := r.pool.setStage i (.ended (j.resultOf late failure))
      have hp : Pool.Step now r.pool (.finish i failure) pool := .finished hj hs
      have hless := hp.remaining_lt rfl
      have hpool : WorkerRun.remaining { r with pool } + 2 * r.pool.remaining =
          r.remaining + 2 * pool.remaining := remaining_withPool rfl
      have hmore := remaining_settleJob_le { r with pool } j (.ofResult · (j.resultOf late failure))
      change (settleJob { r with pool } _ _).remaining < _
      omega
  | pool hinner hp =>
      have hless := hp.remaining_lt hm
      have hpool := remaining_withPool (hp.closed_eq hinner)
      omega
  | closed _ hopen => simp [remaining, remainingOn, channelLength, Line.all, hopen, Pool.remaining]
  | settled hs => simp [remaining, remainingOn, channelLength, Line.all, hs]

/-- Nothing else than a loop leaves more to do. -/
theorem Step.remaining_le (h : Step w now r m r') (hr : r.result? ≠ none) :
    r'.remaining ≤ r.remaining := by
  cases hm : m.drains with
  | true => exact Nat.le_of_lt (h.remaining_lt hm)
  | false =>
      cases h with
      | taskLoop hnone | tickerLoop hnone | cleanupLoop hnone => exact absurd hnone hr
      | notified | cancelled => exact Nat.le_refl _
      | pool hinner => rw [Move.drains, Pool.Move.advances_of_isInner hinner] at hm; cases hm
      | skipped | unhandled | submitted | tickerSkipped | tickerSubmitted | cleanupSubmitted
      | accepted | refused | left | finished | closed | settled => cases hm

/-! ## Something can be done -/

/-- What a dispatcher makes of the next thing in its channel at a moment, if it submits it. -/
def nextSubmission? (w : Worker) (moment : Timestamp) (r : WorkerRun) :
    Line → Option Submission
  | .tasks => do
    let t ← r.tasks.channel.items.head?
    if t.statusAt moment = .expired then none
    else return .ofTask w.manager.worker t moment ((← w.queues.find? t.queue) t)
  | .tickers => do
    let t ← r.tickers.channel.items.head?
    return .ofTicker w.manager.worker t ((← w.tickers.find? t.ticker) t)
  | .cleanup => r.cleanup.channel.items.head?.map (.ofTicker w.manager.worker · .external)

/-- A dispatcher is to submit something at a moment whose time limit lies beyond the clock. -/
def Overruns (w : Worker) (now : Instant) (moment : Timestamp) (r : WorkerRun) : Prop :=
  ∃ line s limit, r.nextSubmission? w moment line = some s ∧ s.limit = some limit ∧
    now.after? limit = none

end WorkerRun

end TaskQueue
