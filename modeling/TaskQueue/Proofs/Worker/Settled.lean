import TaskQueue.Proofs.Worker.Books

/-!
# Settled tasks

When a run of a worker has returned, the accounts of its tasks can be closed: each task that was
claimed was dispatched and settled by what came of it, or the task loop had it last. A worker that
was stopped gave that last task back as well.
-/

namespace TaskQueue

/-! ## What a dispatched task calls for -/

namespace Dispatched

/-- The pool accepted a task, and its run came to a result. -/
def EndedWith (p : Pool Work) (d : Dispatched) (result : RunResult) : Prop :=
  ∃ i j, d.job? = some i ∧ p.jobs[i]? = some j ∧ j.stage = .ended result

def IsRefused (p : Pool Work) (d : Dispatched) : Prop :=
  ∃ i j why, d.job? = some i ∧ p.jobs[i]? = some j ∧ j.stage = .refused why

/-- Which settlement a task calls for in the end: it is released if its run went well; it is failed
with the wording of a run that did not, or for want of a callback; it is given back if the pool
refused it; and nothing is done if it had expired. -/
structure Settles (w : Worker) (p : Pool Work) (d : Dispatched) : Prop where
  released : d.settlement? p = some (.release d.task.id) ↔
    ∃ result, d.EndedWith p result ∧ result.isOk = true
  failed : ∀ reason, d.settlement? p = some (.fail d.task.id reason) ↔
    (∃ result, d.EndedWith p result ∧ result.isOk = false ∧ result.message = reason) ∨
      (d.task.statusAt d.moment ≠ .expired ∧ w.queues.find? d.task.queue = none ∧
        WorkerRun.noHandlerMessage d.task.queue = reason)
  givenBack : d.settlement? p = some (.giveBack d.task.id) ↔ d.IsRefused p
  skipped : d.settlement? p = none ↔ d.task.statusAt d.moment = .expired
  own : ∀ s, d.settlement? p = some s → s.id = d.task.id

variable {w : Worker} {p : Pool Work} {d : Dispatched} {i : Nat} {j : Job Work}

theorem endedWith_iff {result} (hd : d.job? = some i) (hi : p.jobs[i]? = some j) :
    d.EndedWith p result ↔ j.stage = .ended result := by
  simp [EndedWith, hd, hi]

theorem isRefused_iff (hd : d.job? = some i) (hi : p.jobs[i]? = some j) :
    d.IsRefused p ↔ ∃ why, j.stage = .refused why := by
  simp [IsRefused, hd, hi]

theorem no_job (hd : d.job? = none) : (∀ result, ¬ d.EndedWith p result) ∧ ¬ d.IsRefused p := by
  simp [EndedWith, IsRefused, hd]

/-- A task whose job is over calls for what its outcome and its job say. -/
theorem Fits.settles (h : d.Fits w p) (hover : p.isDrained = true) : d.Settles w p := by
  unfold Fits at h
  split at h
  case h_1 hout =>
    have hnone : d.settlement? p = none := by simp [settlement?, hout]
    obtain ⟨hended, hrefused⟩ := no_job (p := p) (d := d) (by simp [job?, hout])
    constructor <;> simp [hnone, hended, hrefused, h]
  case h_2 hout =>
    obtain ⟨hexpired, hhandler⟩ := h
    have hsome : d.settlement? p =
        some (.fail d.task.id (WorkerRun.noHandlerMessage d.task.queue)) := by
      simp [settlement?, hout]
    obtain ⟨hended, hrefused⟩ := no_job (p := p) (d := d) (by simp [job?, hout])
    constructor <;> simp [hsome, hended, hrefused, hexpired, hhandler, Settlement.id]
  case h_3 i hout =>
    obtain ⟨hexpired, hhandler, j, hi, hsubject⟩ := h
    have hd : d.job? = some i := by simp [job?, hout]
    have hsettlement : d.settlement? p = ofJob d.task.id j := by simp [settlement?, hout, hi]
    have hnone : w.queues.find? d.task.queue ≠ none := Option.isSome_iff_ne_none.mp hhandler
    have hjob : j.isOver = true := List.all_eq_true.mp hover j (List.mem_of_getElem? hi)
    cases hs : j.stage with
    | waiting | queued | running => simp [Job.isOver, hs] at hjob
    | refused why =>
        have hgive : d.settlement? p = some (.giveBack d.task.id) := by
          simp [hsettlement, ofJob, hs]
        constructor <;> simp [hgive, endedWith_iff hd hi, isRefused_iff hd hi, hs, hexpired,
          hnone, Settlement.id]
    | ended result =>
        have hresult : d.settlement? p = some (.ofResult d.task.id result) := by
          simp [hsettlement, ofJob, hs]
        cases hok : result.isOk <;>
          constructor <;> simp [hresult, Settlement.ofResult, endedWith_iff hd hi,
            isRefused_iff hd hi, hs, hok, hexpired, hnone, Settlement.id]

end Dispatched

/-! ## Attempts -/

namespace WorkerHistory

variable {w : Worker} {h h' h₀ : WorkerHistory} {m : WorkerRun.Move}

/-- There was one attempt for each task that the task loop handed back and for each settlement that
was carried out, and it sent what the settlement says. -/
structure Attempted (w : Worker) (h : WorkerHistory) : Prop where
  perm : (h.attempts.map Attempt.settlement).Perm
    (h.tasks.handedBack.map .giveBack ++ h.settled)
  calls : ∀ a ∈ h.attempts, a.Calls w.manager

theorem Attempted.congr (ha : h.Attempted w) (hattempts : h'.attempts = h.attempts)
    (htasks : h'.tasks.handedBack = h.tasks.handedBack) (hsettled : h'.settled = h.settled) :
    h'.Attempted w := by
  constructor
  · rw [hattempts, htasks, hsettled]
    exact ha.perm
  · rw [hattempts]
    exact ha.calls

theorem note_of_not_turn (hm : isTurn m = false) : (h.note w m).attempts = h.attempts ∧
    (h.note w m).tasks = h.tasks ∧ (h.note w m).settled = h.settled := by
  cases m with
  | taskLoop | settled => cases hm
  | dispatch line moment => cases line <;> exact ⟨rfl, rfl, rfl⟩
  | tickerLoop | cleanupLoop | answered | leave | pool | close | notify | cancel =>
      exact ⟨rfl, rfl, rfl⟩

theorem calls_handing {replies lost asked m s}
    (ht : h.run.tasks.take? w.manager h.now h.run.cancelled replies lost = some (asked, m))
    (hs : h.handing = some s) : Attempt.Calls w.manager ⟨s, asked⟩ := by
  obtain ⟨id, hid, rfl⟩ := Option.map_eq_some_iff.mp hs
  have hphase : h.run.tasks.phase = .returning id := by
    unfold TaskLoop.Phase.returns? at hid
    split at hid
    · cases hid; assumption
    · cases hid
  obtain ⟨d, hd, ht⟩ := Option.bind_eq_some_iff.mp ht
  obtain ⟨_, -, ht⟩ := Option.map_eq_some_iff.mp ht
  cases ht
  simp only [TaskLoop.turn?, hphase, Option.some.injEq] at hd
  subst hd
  rw [Dialogue.hear_map]
  exact Attempt.calls_carryOut w.manager (.giveBack id) replies

theorem Attempted.turn {replies lost asked m} (ha : h.Attempted w)
    (ht : h.run.tasks.take? w.manager h.now h.run.cancelled replies lost = some (asked, m))
    (hs : (h.attempt h.handing asked).move? w (.taskLoop m) = some h') : h'.Attempted w := by
  obtain ⟨run, hr, rfl⟩ := move?_eq_some hs
  cases hr with
  | taskLoop _ hl =>
      have hback : (h.tasks.note h.run.tasks m).handedBack =
          h.tasks.handedBack ++ h.run.tasks.phase.returns?.toList := hl.handedBack
      have hnew : (h.handing.map (Attempt.mk · asked)).toList.map Attempt.settlement =
          h.run.tasks.phase.returns?.toList.map .giveBack := by
        unfold handing
        cases h.run.tasks.phase.returns? <;> rfl
      constructor
      · change ((h.attempts ++ _).map _).Perm
          ((h.tasks.note h.run.tasks m).handedBack.map _ ++ h.settled)
        rw [hback, List.map_append, List.map_append, hnew, List.append_assoc]
        refine (ha.perm.append_right _).trans ?_
        rw [List.append_assoc]
        exact List.perm_append_comm.append_left _
      · intro a hmem
        rcases List.mem_append.mp hmem with hmem | hmem
        · exact ha.calls a hmem
        · obtain ⟨s, hs, rfl⟩ := Option.map_eq_some_iff.mp (Option.mem_toList.mp hmem)
          exact calls_handing ht hs

theorem Attempted.settle {s replies result} (ha : h.Attempted w)
    (hhead : h.run.settlements.head? = some s)
    (hs : (h.attempt (some s) ((s.carryOut w.manager).run.hear replies).1).move? w
      (.settled result) = some h') : h'.Attempted w := by
  obtain ⟨run, -, rfl⟩ := move?_eq_some hs
  constructor
  · change ((h.attempts ++ [_]).map _).Perm
      (_ ++ (h.settled ++ h.run.settlements.head?.toList))
    rw [hhead, Option.toList_some, List.map_append, ← List.append_assoc]
    exact ha.perm.append_right _
  · intro a hmem
    rcases List.mem_append.mp hmem with hmem | hmem
    · exact ha.calls a hmem
    · cases List.mem_singleton.mp hmem
      exact Attempt.calls_carryOut w.manager s replies

theorem Attempted.step {e} (ha : h.Attempted w) (hs : step? w e h = some h') :
    h'.Attempted w := by
  cases e with
  | turn replies lost =>
      obtain ⟨_, ht, hs⟩ := Option.bind_eq_some_iff.mp hs
      exact ha.turn ht hs
  | settle replies lost =>
      obtain ⟨s, hhead, hs⟩ := Option.bind_eq_some_iff.mp hs
      exact ha.settle hhead hs
  | move m =>
      obtain ⟨hm, run, hr, rfl⟩ := step?_move hs
      obtain ⟨hattempts, htasks, hsettled⟩ := note_of_not_turn (h := h) (w := w) hm
      exact ha.congr hattempts (congrArg _ htasks) hsettled
  | pass nanos | disconnect => cases hs; exact ha.congr rfl rfl rfl

theorem Attempted.run {es} (ha : h.Attempted w) (hs : after? (step? w) es h = some h') :
    h'.Attempted w :=
  after?_preserves (fun hs ha => Attempted.step ha hs) hs ha

theorem Attempted.start {now jitter cleanupJitter}
    (hs : start w now jitter cleanupJitter = .ok h₀) : h₀.Attempted w := by
  obtain ⟨run, -, rfl⟩ := start_eq_ok hs
  exact ⟨.nil, by simp⟩

/-! ## The accounts of a run -/

/-- A worker with callbacks for the tasks of one queue. -/
def mailWorker : Worker where
  manager := ⟨"public", "default", "w1"⟩
  concurrency := 1
  pollInterval := .ofSecs 1
  tickerPeriod := .ofSecs 15
  queues := [("mail", fun _ => .external)]
  tickers := []

/-- The task loop claims a task, puts it in the channel, and the dispatcher takes it from there. -/
def claimAndDispatch (id : Int) (queue : String) : List Event :=
  [.turn (taskReplies id queue), .turn [], .move (.dispatch .tasks .epoch)]

end WorkerHistory

end TaskQueue
