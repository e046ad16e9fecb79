import TaskQueue.Proofs.Pool.Cancellation
import TaskQueue.Proofs.Pool.Settling

/-!
# The schedule of a pool

A pool runs at most as many handlers at a time as it has workers, and keeps at most as many jobs in
its queue. When nothing can happen before something new does, a job is queued only while every
worker is busy, and a call waits only while the queue is full as well. Jobs are accepted in the
order in which their calls began, and taken by the workers in the order in which they were accepted,
however the callbacks before them end.
-/

namespace TaskQueue

namespace Pool

section

variable {α : Type} {now : Instant} {p p' : Pool α} {m : Move α} {i : Nat} {j : Job α}

/-! ## Bounds -/

structure Bounded (p : Pool α) : Prop where
  running : p.running ≤ p.size
  queued : p.queued ≤ p.size

theorem Bounded.ofSize (size : Nat) : (Pool.ofSize size : Pool α).Bounded :=
  ⟨Nat.zero_le _, Nat.zero_le _⟩

/-- A job that changes adds one to a count at most, and nothing if it counted before. -/
theorem countP_modify_le {f : Job α → Job α} {q : Job α → Bool} (hj : p.jobs[i]? = some j)
    (hle : p.jobs.countP q ≤ p.size)
    (hf : q (f j) = true → q j = true ∨ p.jobs.countP q < p.size) :
    (p.modify i f).jobs.countP q ≤ p.size := by
  have hcount := countP_modify (f := f) (q := q) hj
  cases hnew : q (f j) with
  | false =>
      simp only [hnew, Bool.toNat_false] at hcount
      omega
  | true =>
      simp only [hnew, Bool.toNat_true] at hcount
      rcases hf hnew with hold | hlt
      · simp only [hold, Bool.toNat_true] at hcount
        omega
      · omega

theorem Bounded.modify {f : Job α → Job α} (hb : p.Bounded) (hj : p.jobs[i]? = some j)
    (hrunning : (f j).isRunning = true → j.isRunning = true ∨ p.running < p.size)
    (hqueued : (f j).isQueued = true → j.isQueued = true ∨ p.queued < p.size) :
    (p.modify i f).Bounded :=
  ⟨countP_modify_le hj hb.running hrunning, countP_modify_le hj hb.queued hqueued⟩

theorem Bounded.step (hb : p.Bounded) (h : Step now p m p') : p'.Bounded := by
  cases h with
  | called =>
      obtain ⟨hr, hq⟩ := hb
      cases hc : p.closed <;>
        exact ⟨by simpa [Pool.running, firstStage, hc, Job.isRunning] using hr,
          by simpa [Pool.queued, firstStage, hc, Job.isQueued] using hq⟩
  | refused _ hj _ => exact hb.modify hj (by simp [Job.isRunning]) (by simp [Job.isQueued])
  | admitted _ hroom _ hj _ =>
      exact hb.modify hj (by simp [Job.isRunning]) fun _ => .inr hroom
  | started hfree _ hj _ => exact hb.modify hj (fun _ => .inr hfree) (by simp [Job.isQueued])
  | expired hj hs _ _ =>
      exact hb.modify hj (fun _ => .inl (by simp [Job.isRunning, hs])) (by simp [Job.isQueued])
  | finished hj _ => exact hb.modify hj (by simp [Job.isRunning]) (by simp [Job.isQueued])
  | cancelled | closed => exact ⟨hb.running, hb.queued⟩

end

/-! ## Quiet pools -/

variable {now : Instant} {p : Pool Work}

/-- How many handlers run. A job whose payload does not decode has none. -/
def handlers (p : Pool Work) : Nat := p.jobs.countP fun j => j.isRunning && j.work.isRunnable

theorem handlers_le_running : p.handlers ≤ p.running := by
  refine List.countP_mono_left fun j _ h => ?_
  simp only [Bool.and_eq_true] at h
  exact h.1

theorem IsQuiet.handlers_eq (hq : p.IsQuiet now) : p.handlers = p.running := by
  refine List.countP_congr fun j hj => ?_
  simp only [Bool.and_eq_true, and_iff_left_iff_imp]
  exact hq.handled j hj

/-- How a pool is used: no worker has two handlers and no place of the queue two jobs; and at a
quiet moment no worker is idle that could run a job, and no call waits that could be accepted. -/
structure Scheduled (now : Instant) (p : Pool Work) : Prop where
  handlers : p.handlers ≤ p.size
  queued : p.queued ≤ p.size
  busy : p.IsQuiet now → 0 < p.queued → p.handlers = p.size
  full : p.IsQuiet now → 0 < p.waiting → p.handlers = p.size ∧ p.queued = p.size

theorem Bounded.scheduled (hb : p.Bounded) (hsize : 0 < p.size) : p.Scheduled now := by
  have hbusy (hq : p.IsQuiet now) (hqueued : 0 < p.queued) : p.handlers = p.size := by
    rw [hq.handlers_eq]
    exact Nat.le_antisymm hb.running (size_le_running_of_stuck hq.stuck hqueued)
  refine ⟨Nat.le_trans handlers_le_running hb.running, hb.queued, hbusy, fun hq hwaiting => ?_⟩
  have hfull : p.queued = p.size :=
    Nat.le_antisymm hb.queued (size_le_queued_of_stuck hq.stuck hwaiting)
  exact ⟨hbusy hq (by omega), hfull⟩

end Pool

/-! ## The order of jobs -/

namespace Occurrence

def called? : Occurrence → Option Nat
  | called i => some i
  | _ => none

def accepted? : Occurrence → Option Nat
  | accepted i => some i
  | _ => none

theorem filterMap_runs {f : Occurrence → Option Nat} (hf : ∀ i, f (.ran i) = none) (i : Nat)
    (j : Job Work) : (j.runs i).filterMap f = [] := by
  unfold Job.runs
  split <;> simp [hf]

end Occurrence

namespace PoolHistory

variable {h h' : PoolHistory} {m : Pool.Move Work} {pool : Pool Work} {es : List Event}
  {line queue : List Nat} {size i : Nat} {now : Instant}

/-- The jobs of a history, in the order in which their calls began. -/
def called (h : PoolHistory) : List Nat := h.log.filterMap Occurrence.called?

def accepted (h : PoolHistory) : List Nat := h.log.filterMap Occurrence.accepted?

/-- The job that a worker takes from the queue with an event. -/
def takes (e : Event) (h : PoolHistory) : List Nat :=
  match e with
  | .move .start => (h.pool.jobs.findIdx? Job.isQueued).toList
  | _ => []

/-- The jobs that workers took in a run, in that order. -/
def taken (es : List Event) (h : PoolHistory) : List Nat := gathered step? takes es h

/-- The jobs of a history are in order: `line` are those that workers took, and `queue` those that
they will take next. -/
structure InOrder (h : PoolHistory) (line queue : List Nat) : Prop where
  called : h.called = List.range h.pool.jobs.length
  accepted : h.accepted = line ++ queue
  increasing : (line ++ queue).Pairwise (· < ·)
  past : ∀ i, i ∈ line ↔ (h.pool.jobs[i]?).any Job.isTaken = true
  queued : ∀ i, i ∈ queue ↔ (h.pool.jobs[i]?).any Job.isQueued = true
  /-- No call waits that began before one that was accepted. -/
  waiting : ∀ i, (h.pool.jobs[i]?).any Job.isWaiting = true → ∀ k ∈ line ++ queue, k < i
  known : ∀ k ∈ line ++ queue, k < h.pool.jobs.length

theorem InOrder.start : (PoolHistory.start size now).InOrder [] [] := by
  constructor <;> simp [PoolHistory.start, Pool.ofSize, PoolHistory.called, PoolHistory.accepted]

/-- No job is added, and none joins or leaves the queue or is taken: the order stays as it is. -/
theorem InOrder.keep {os : List Occurrence} (ho : h.InOrder line queue)
    (hlength : pool.jobs.length = h.pool.jobs.length)
    (htaken : ∀ k : Nat, (pool.jobs[k]?).any Job.isTaken = (h.pool.jobs[k]?).any Job.isTaken)
    (hqueued : ∀ k : Nat, (pool.jobs[k]?).any Job.isQueued = (h.pool.jobs[k]?).any Job.isQueued)
    (hwaiting : ∀ k : Nat, (pool.jobs[k]?).any Job.isWaiting = true →
      (h.pool.jobs[k]?).any Job.isWaiting = true)
    (hcalled : os.filterMap Occurrence.called? = [])
    (haccepted : os.filterMap Occurrence.accepted? = []) :
    InOrder { h with pool, log := h.log ++ os } line queue where
  called := by simpa [PoolHistory.called, hcalled, hlength] using ho.called
  accepted := by simpa [PoolHistory.accepted, haccepted] using ho.accepted
  increasing := ho.increasing
  past k := (ho.past k).trans (by rw [htaken k])
  queued k := (ho.queued k).trans (by rw [hqueued k])
  waiting k hk := ho.waiting k (hwaiting k hk)
  known k hk := hlength ▸ ho.known k hk

theorem InOrder.modify {f : Job Work → Job Work} {j : Job Work} {os : List Occurrence}
    (ho : h.InOrder line queue) (hj : h.pool.jobs[i]? = some j)
    (htaken : (f j).isTaken = j.isTaken) (hqueued : (f j).isQueued = j.isQueued)
    (hwaiting : (f j).isWaiting = false) (hcalled : os.filterMap Occurrence.called? = [])
    (haccepted : os.filterMap Occurrence.accepted? = []) :
    InOrder { h with pool := h.pool.modify i f, log := h.log ++ os } line queue := by
  refine ho.keep (Pool.length_modify f) (fun k => Pool.any_modify hj htaken)
    (fun k => Pool.any_modify hj hqueued) (fun k hk => ?_) hcalled haccepted
  rw [Pool.getElem?_modify hj] at hk
  split at hk
  · simp [hwaiting] at hk
  · exact hk

theorem InOrder.call {j : Job Work} {os : List Occurrence} (ho : h.InOrder line queue)
    (htaken : j.isTaken = false) (hqueued : j.isQueued = false)
    (hcalled : os.filterMap Occurrence.called? = [h.pool.jobs.length])
    (haccepted : os.filterMap Occurrence.accepted? = []) :
    InOrder { h with
        pool := { h.pool with jobs := h.pool.jobs ++ [j] }
        log := h.log ++ os } line queue := by
  have hnew {q : Job Work → Bool} (hq : q j = false) (k : Nat) :
      ((h.pool.jobs ++ [j])[k]?).any q = (h.pool.jobs[k]?).any q := by
    rw [List.getElem?_append]
    split
    · rfl
    · rename_i hge
      rw [List.getElem?_eq_none (Nat.le_of_not_lt hge), List.getElem?_singleton]
      split <;> simp [hq]
  constructor
  case called =>
    have hold := ho.called
    unfold PoolHistory.called at hold ⊢
    simp [hold, hcalled, List.range_succ]
  case accepted => simpa [PoolHistory.accepted, haccepted] using ho.accepted
  case increasing => exact ho.increasing
  case past => exact fun k => (ho.past k).trans (by rw [hnew htaken])
  case queued => exact fun k => (ho.queued k).trans (by rw [hnew hqueued])
  case waiting =>
    intro k hk q hq
    rw [List.getElem?_append] at hk
    split at hk
    · exact ho.waiting k hk q hq
    · rename_i hge
      exact Nat.lt_of_lt_of_le (ho.known q hq) (Nat.le_of_not_lt hge)
  case known =>
    intro k hk
    have hlt := ho.known k hk
    simp only [List.length_append, List.length_singleton]
    omega

theorem InOrder.admitted {j : Job Work} (ho : h.InOrder line queue)
    (hi : h.pool.jobs.findIdx? Job.isWaiting = some i) (hj : h.pool.jobs[i]? = some j)
    (hs : j.stage = .waiting) :
    InOrder { h with
        pool := h.pool.setStage i .queued
        log := h.log ++ h.pool.occurrences .enqueue } line (queue ++ [i]) := by
  have hlast : ∀ k ∈ line ++ queue, k < i := ho.waiting i (by simp [hj, Job.isWaiting, hs])
  constructor
  case called =>
    have hnone : (h.pool.occurrences .enqueue).filterMap Occurrence.called? = [] := by
      rw [Pool.occurrences, hi]
      rfl
    simpa [PoolHistory.called, hnone, Pool.setStage] using ho.called
  case accepted =>
    have haccepted := ho.accepted
    unfold PoolHistory.accepted at haccepted ⊢
    simp [haccepted, Pool.occurrences, hi, Occurrence.accepted?]
  case increasing =>
    rw [← List.append_assoc]
    exact List.pairwise_append.mpr ⟨ho.increasing, by simp, by simpa using hlast⟩
  case past =>
    intro k
    exact (ho.past k).trans (by rw [Pool.setStage, Pool.any_modify hj]; simp [Job.isTaken, hs])
  case queued =>
    intro k
    rw [List.mem_append, ho.queued k, List.mem_singleton, Pool.getElem?_setStage hj]
    split
    · subst k; simp [Job.isQueued]
    · rename_i hik
      simp [Ne.symm hik]
  case waiting =>
    intro k hk q hq
    rw [Pool.getElem?_setStage hj] at hk
    split at hk
    · simp [Job.isWaiting] at hk
    · rename_i hik
      -- `i` is the first that waits
      have hlt : i < k := Nat.lt_of_le_of_ne (Pool.le_of_findIdx? hi hk) hik
      rw [← List.append_assoc, List.mem_append, List.mem_singleton] at hq
      rcases hq with hq | rfl
      · exact Nat.lt_trans (hlast q hq) hlt
      · exact hlt
  case known =>
    intro k hk
    rw [← List.append_assoc, List.mem_append, List.mem_singleton] at hk
    simp only [Pool.setStage, Pool.length_modify]
    rcases hk with hk | rfl
    · exact ho.known k hk
    · exact (List.getElem?_eq_some_iff.mp hj).1

/-- The job that is queued first stands first in the queue. -/
theorem InOrder.exists_tail (ho : h.InOrder line queue)
    (hi : h.pool.jobs.findIdx? Job.isQueued = some i) : ∃ rest, queue = i :: rest := by
  obtain ⟨j, hj, hq, -⟩ := Pool.exists_of_findIdx? hi
  have hmem : i ∈ queue := (ho.queued i).mpr (by simp [hj, hq])
  cases queue with
  | nil => cases hmem
  | cons k rest =>
      have hle : i ≤ k := Pool.le_of_findIdx? hi ((ho.queued k).mp (by simp))
      rcases List.mem_cons.mp hmem with rfl | hrest
      · exact ⟨rest, rfl⟩
      · have hsorted := (List.pairwise_append.mp ho.increasing).2.1
        have hlt := (List.pairwise_cons.mp hsorted).1 i hrest
        omega

theorem InOrder.started {j : Job Work} (ho : h.InOrder line queue)
    (hi : h.pool.jobs.findIdx? Job.isQueued = some i) (hj : h.pool.jobs[i]? = some j) :
    ∃ rest, InOrder { h with
        pool := h.pool.setStage i (.running h.now false)
        log := h.log ++ h.pool.occurrences .start } (line ++ [i]) rest := by
  obtain ⟨rest, rfl⟩ := ho.exists_tail hi
  have hsorted := (List.pairwise_append.mp ho.increasing).2.1
  have hline : line ++ [i] ++ rest = line ++ i :: rest := List.append_cons .. |>.symm
  have hnone {f : Occurrence → Option Nat} (hf : ∀ i, f (.ran i) = none) :
      (h.pool.occurrences .start).filterMap f = [] := by
    simpa [Pool.occurrences, hi, hj] using Occurrence.filterMap_runs hf i j
  refine ⟨rest, ?_⟩
  constructor
  case called =>
    simpa [PoolHistory.called, hnone (f := Occurrence.called?) fun _ => rfl, Pool.setStage] using
      ho.called
  case accepted =>
    rw [hline, ← ho.accepted]
    simp [PoolHistory.accepted, hnone (f := Occurrence.accepted?) fun _ => rfl]
  case increasing => exact hline ▸ ho.increasing
  case past =>
    intro k
    rw [List.mem_append, ho.past k, List.mem_singleton, Pool.getElem?_setStage hj]
    split
    · subst k; simp [Job.isTaken]
    · rename_i hik
      simp [Ne.symm hik]
  case queued =>
    intro k
    have hk := ho.queued k
    rw [List.mem_cons] at hk
    rw [Pool.getElem?_setStage hj]
    split
    · subst k
      have hnot : i ∉ rest := fun hrest =>
        Nat.lt_irrefl i ((List.pairwise_cons.mp hsorted).1 i hrest)
      simp [hnot, Job.isQueued]
    · rename_i hik
      simpa [Ne.symm hik] using hk
  case waiting =>
    intro k hk
    rw [hline]
    refine ho.waiting k ?_
    rw [Pool.getElem?_setStage hj] at hk
    split at hk
    · simp [Job.isWaiting] at hk
    · exact hk
  case known =>
    rw [hline]
    simpa [Pool.setStage] using ho.known

theorem InOrder.move (ho : h.InOrder line queue) (hp : Pool.Step h.now h.pool m pool) :
    ∃ rest, InOrder { h with pool, log := h.log ++ h.pool.occurrences m }
      (line ++ takes (.move m) h) rest := by
  -- only a start takes a job from the queue
  have hstay {rest pool} (ho : InOrder { h with pool, log := h.log ++ h.pool.occurrences m }
      line rest) (hm : takes (.move m) h = []) :
      ∃ rest, InOrder { h with pool, log := h.log ++ h.pool.occurrences m }
        (line ++ takes (.move m) h) rest :=
    ⟨rest, by rwa [hm, List.append_nil]⟩
  cases hp with
  | called _ =>
      refine hstay (ho.call ?_ ?_ ?_ ?_) rfl <;>
        cases hc : h.pool.closed <;>
          simp [Pool.occurrences, Pool.firstStage, hc, Job.isTaken, Job.isQueued,
            Occurrence.called?, Occurrence.accepted?]
  | refused _ hj hs =>
      exact hstay (ho.modify hj (by simp [Job.isTaken, hs]) (by simp [Job.isQueued, hs])
        (by simp [Job.isWaiting]) rfl rfl) rfl
  | admitted _ _ hi hj hs => exact hstay (ho.admitted hi hj hs) rfl
  | started _ hi hj _ =>
      obtain ⟨rest, hrest⟩ := ho.started hi hj
      exact ⟨rest, by simpa [takes, hi] using hrest⟩
  | expired hj hs _ _ =>
      exact hstay (ho.modify hj (by simp [Job.isTaken, hs]) (by simp [Job.isQueued, hs])
        (by simp [Job.isWaiting]) rfl rfl) rfl
  | finished hj hs =>
      refine hstay (ho.modify hj (by simp [Job.isTaken, hs]) (by simp [Job.isQueued, hs])
        (by simp [Job.isWaiting]) ?_ ?_) rfl <;>
        simp [Pool.occurrences, hj, hs, Occurrence.called?, Occurrence.accepted?]
  | cancelled | closed =>
      exact hstay (ho.keep rfl (fun _ => rfl) (fun _ => rfl) (fun _ => id) rfl rfl) rfl

theorem InOrder.run (hr : after? step? es (PoolHistory.start size now) = some h) :
    ∃ queue, h.InOrder (taken es (PoolHistory.start size now)) queue := by
  refine after?_induction
    (P := fun es h => ∃ queue, h.InOrder (taken es (PoolHistory.start size now)) queue)
    ⟨[], .start⟩ ?_ hr
  rintro es e h h' hr hs ⟨queue, ho⟩
  rw [taken, gathered_snoc hr]
  cases e with
  | move m =>
      obtain ⟨pool, hp, rfl⟩ := step?_move hs
      exact ho.move hp
  | pass nanos =>
      cases hs
      have hnone : takes (.pass nanos) h = [] := rfl
      refine ⟨queue, ?_⟩
      rw [hnone, List.append_nil]
      exact ⟨ho.called, ho.accepted, ho.increasing, ho.past, ho.queued, ho.waiting, ho.known⟩

theorem bounded_of_run (hr : after? step? es (start size now) = some h) :
    h.pool.size = max size 1 ∧ h.pool.Bounded := by
  refine after?_preserves (P := fun h => h.pool.size = max size 1 ∧ h.pool.Bounded) ?_ hr
    ⟨rfl, .ofSize size⟩
  rintro e h h' hs ⟨hsize, hbounded⟩
  cases e with
  | move m =>
      obtain ⟨pool, hp, rfl⟩ := step?_move hs
      exact ⟨hp.size_eq.trans hsize, hbounded.step hp⟩
  | pass nanos => cases hs; exact ⟨hsize, hbounded⟩

/-- However calls, ends of callbacks, cancellation, closing and time follow each other, a pool keeps
to its bounds, is work-conserving at quiet moments, and keeps its jobs in order: they are accepted
in the order of their calls, and those that were accepted are the ones that workers took, in the
order in which they took them, followed by those that are queued. Whoever settles it at any moment
makes it quiet. -/
theorem scheduled_in_order (hr : after? step? es (.start size now) = some h) :
    h.pool.size = max size 1 ∧ h.pool.Scheduled h.now ∧
      h.called = List.range h.pool.jobs.length ∧ h.accepted.Pairwise (· < ·) ∧
      (∃ queue, h.accepted = taken es (.start size now) ++ queue ∧
        ∀ i, (i ∈ taken es (.start size now) ↔ (h.pool.jobs[i]?).any Job.isTaken = true) ∧
          (i ∈ queue ↔ (h.pool.jobs[i]?).any Job.isQueued = true)) ∧
      ∀ c : Crew, c.pool = h.pool → c.IsRecorded → (c.settle h.now).pool.IsQuiet h.now ∧
        ∃ es' h', after? step? es' h = some h' ∧ h'.now = h.now ∧
          h'.pool = (c.settle h.now).pool := by
  obtain ⟨hsize, hbounded⟩ := bounded_of_run hr
  have hpos : 0 < h.pool.size := by omega
  obtain ⟨queue, ho⟩ := InOrder.run hr
  refine ⟨hsize, hbounded.scheduled hpos, ho.called, ho.accepted ▸ ho.increasing,
    ⟨queue, ho.accepted, fun i => ⟨ho.past i, ho.queued i⟩⟩, ?_⟩
  intro c hpool hc
  have hfollows : PoolSession.FollowsFrom h ⟨h.now, c⟩ := ⟨[], h, rfl, rfl, hpool.symm⟩
  exact ⟨Crew.settle_isQuiet hc, hfollows.settle⟩

/-- A run of a pool of one worker whose first callback is late and then panics. At its end the
second runs, the third is queued and a fourth call waits. -/
def saturatedRun : List Event :=
  let call (limit : Option Span) : Event := .move (.call "w1" (.ticker default) limit .external)
  [call (some (.ofSecs 5)), .move .enqueue, .move .start, call none, .move .enqueue, call none,
    .pass (5 * nanosPerSecond), .move (.expire 0), .move (.finish 0 (some (.panic "gone"))),
    .move .start, .move .enqueue, call none]

theorem saturatedRun_scheduled :
    ∃ h, after? step? saturatedRun (.start 1 0) = some h ∧ h.pool.IsQuiet h.now ∧
      h.pool.handlers = 1 ∧ h.pool.queued = 1 ∧ h.pool.waiting = 1 ∧
      h.accepted = [0, 1, 2] ∧ taken saturatedRun (.start 1 0) = [0, 1] ∧
      ∃ c : Crew, c.pool = h.pool ∧ (c.settle h.now).pool.IsQuiet h.now := by
  have hrun : (after? step? saturatedRun (.start 1 0)).any (fun h =>
      (h.pool.ownMoves h.now).isEmpty ∧ (∀ j ∈ h.pool.jobs, j.work.isRunnable = true) ∧
        0 < h.pool.queued ∧ h.pool.waiting = 1 ∧ h.accepted = [0, 1, 2]) = true := by
    decide +kernel
  obtain ⟨h, hrun, hh⟩ := (Option.any_eq_true _ _).mp hrun
  obtain ⟨hstuck, hhandled, hqueued, hwaiting, haccepted⟩ := of_decide_eq_true hh
  have htaken : taken saturatedRun (.start 1 0) = [0, 1] := by decide +kernel
  have hquiet : h.pool.IsQuiet h.now := ⟨List.isEmpty_iff.mp hstuck, fun j hj _ => hhandled j hj⟩
  obtain ⟨hsize, hscheduled, -, -, -, hsettle⟩ := scheduled_in_order hrun
  obtain ⟨hbusy, hfull⟩ := hscheduled.full hquiet (by omega)
  let c : Crew := { pool := h.pool, records := List.replicate h.pool.jobs.length {} }
  have hc : c.IsRecorded := List.length_replicate
  exact ⟨h, hrun, hquiet, by omega, by omega, hwaiting, haccepted, htaken, c, rfl,
    (hsettle c rfl hc).1⟩

end PoolHistory

end TaskQueue
