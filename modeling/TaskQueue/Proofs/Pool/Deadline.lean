import TaskQueue.Proofs.Pool.Schedule

/-!
# Deadlines and timers

The deadline that a callback sees counts from the call of its job; the timer that tells it to stop
counts from the moment at which a worker took the job. A job that was not held up has one time for
both. Where a job waited, for room or for a worker, its time is up by its deadline before its timer
goes off, by as long as it waited, and in between nothing tells it to stop.
-/

namespace TaskQueue

namespace Job

variable {α : Type} {now later called : Nat} {j : Job α}

/-- A job whose call began at an instant, and which was taken after it if it runs. -/
structure Timed (now called : Nat) (j : Job α) : Prop where
  deadline : j.context.deadline = j.limit.map fun limit => called + limit.nanos
  clock : ∀ limit, j.limit = some limit → called + limit.nanos < (Instant.limit : Nat)
  called_le : called ≤ now
  taken : ∀ since late, j.stage = .running since late → called ≤ since ∧ since ≤ now

theorem Timed.mono (h : j.Timed now called) (hle : now ≤ later) : j.Timed later called where
  deadline := h.deadline
  clock := h.clock
  called_le := Nat.le_trans h.called_le hle
  taken since late hs :=
    ⟨(h.taken since late hs).1, Nat.le_trans (h.taken since late hs).2 hle⟩

/-- A deadline on the clock has no time left from itself on. -/
theorem Timed.remaining_eq_zero (h : j.Timed now called) {limit : Span}
    (hlimit : j.limit = some limit) :
    j.context.remaining now = some Span.zero ↔ called + limit.nanos ≤ now := by
  have hclock := h.clock limit hlimit
  have hbound : called + limit.nanos - now < Nat.pow 2 64 * nanosPerSecond := by
    simp only [Instant.limit, nanosPerSecond, Nat.pow_eq] at hclock ⊢
    omega
  rw [Context.remaining, h.deadline, hlimit]
  simp only [Option.map_some, Instant.spanTo, Span.ofNanos?, dif_pos hbound, Option.getD_some,
    Option.some.injEq, Span.zero, Span.mk.injEq]
  omega

end Job

namespace Pool

variable {α : Type} {now : Instant} {p p' : Pool α} {m : Move α} {calls : List Instant}

/-- The instants are those at which the calls of the jobs began. -/
structure TimedBy (now : Instant) (calls : List Instant) (p : Pool α) : Prop where
  length_eq : calls.length = p.jobs.length
  job : ∀ (i : Nat) (called : Instant) (j : Job α), calls[i]? = some called →
    p.jobs[i]? = some j → j.Timed now called

theorem TimedBy.modify {i : Nat} {j : Job α} {f : Job α → Job α} (h : p.TimedBy now calls)
    (hj : p.jobs[i]? = some j) (hf : ∀ called, j.Timed now called → (f j).Timed now called) :
    (p.modify i f).TimedBy now calls := by
  refine ⟨h.length_eq.trans (length_modify f).symm, fun k called j' hcalled hj' => ?_⟩
  rw [getElem?_modify hj] at hj'
  split at hj'
  · subst k
    cases hj'
    exact hf called (h.job i called j hcalled hj)
  · exact h.job k called j' hcalled hj'

theorem TimedBy.call {j : Job α} (h : p.TimedBy now calls) (hj : j.Timed now now) :
    TimedBy now (calls ++ [now]) { p with jobs := p.jobs ++ [j] } := by
  refine ⟨by simp [h.length_eq], fun k called j' hcalled hj' => ?_⟩
  rw [List.getElem?_append] at hcalled hj'
  rw [h.length_eq] at hcalled
  split at hj'
  · rw [if_pos ‹_›] at hcalled
    exact h.job k called j' hcalled hj'
  · rw [if_neg ‹_›] at hcalled
    rw [List.getElem?_singleton] at hcalled hj'
    split at hj'
    · rw [if_pos ‹_›] at hcalled
      cases hcalled
      cases hj'
      exact hj
    · cases hj'

/-- The instant of a call. -/
def calledAt (now : Instant) : Move α → List Instant
  | .call .. => [now]
  | _ => []

theorem timed_of_make? {worker subject limit context} {work : α} {stage : Stage}
    (hc : Context.make? worker subject now limit = some context)
    (hs : ∀ since late, stage ≠ .running since late) :
    Job.Timed now now { work, context, limit, stage } := by
  cases limit with
  | none =>
      cases hc
      exact ⟨rfl, by simp, Nat.le_refl _, fun _ _ h => (hs _ _ h).elim⟩
  | some limit =>
      obtain ⟨deadline, hafter, rfl⟩ := Option.map_eq_some_iff.mp hc
      simp only [Instant.after?] at hafter
      split at hafter
      · cases hafter
        exact ⟨rfl, by simpa, Nat.le_refl _, fun _ _ h => (hs _ _ h).elim⟩
      · cases hafter

theorem TimedBy.keep (h : p.TimedBy now calls) (hm : calledAt now m = []) :
    p.TimedBy now (calls ++ calledAt now m) := by
  rwa [hm, List.append_nil]

theorem TimedBy.step (h : p.TimedBy now calls) (hs : Step now p m p') :
    p'.TimedBy now (calls ++ calledAt now m) := by
  cases hs with
  | called hc =>
      refine h.call (timed_of_make? hc fun _ _ => ?_)
      unfold firstStage
      split <;> exact Stage.noConfusion
  | refused _ hj hs | admitted _ _ _ hj hs | finished hj hs =>
      exact (h.modify hj fun _ hold =>
        ⟨hold.deadline, hold.clock, hold.called_le, by simp⟩).keep rfl
  | started _ _ hj hs =>
      refine (h.modify hj fun _ hold => ⟨hold.deadline, hold.clock, hold.called_le, ?_⟩).keep rfl
      rintro _ _ ⟨⟩
      exact ⟨hold.called_le, Nat.le_refl _⟩
  | expired hj hs _ _ =>
      refine (h.modify hj fun _ hold => ⟨hold.deadline, hold.clock, hold.called_le, ?_⟩).keep rfl
      rintro _ _ ⟨⟩
      exact hold.taken _ _ hs
  | cancelled | closed =>
      exact TimedBy.keep ⟨h.length_eq, h.job⟩ rfl

/-- When nothing is left to be noticed, a running job was told to stop if its timer has gone off,
and not before. -/
theorem isCancelled_iff_of_stuck {i : Nat} {j : Job α} {since : Instant} {late : Bool}
    {limit : Span} (hstuck : p.ownMoves now = []) (htold : j.ToldInTime now)
    (hj : p.jobs[i]? = some j) (hs : j.stage = .running since late)
    (hlimit : j.limit = some limit) :
    p.isCancelled j = true ↔ p.cancelled = true ∨ since + limit.nanos ≤ now := by
  simp only [Job.ToldInTime, hs] at htold
  obtain ⟨hcancelled, hdue⟩ := htold
  rw [isCancelled, Bool.or_eq_true, hcancelled]
  refine or_congr_right ⟨fun hlate => ?_, fun hle => ?_⟩
  · obtain ⟨limit', hlimit', hle⟩ := hdue hlate
    rw [hlimit] at hlimit'
    cases hlimit'
    exact hle
  · cases late with
    | true => rfl
    | false =>
        -- the pool could notice that the job is late
        have hi : i < p.jobs.length := (List.getElem?_eq_some_iff.mp hj).1
        have hexpire := List.filter_eq_nil_iff.mp hstuck (.expire i) (by simp [indices, hi])
        rw [canMove_expire hj hs hlimit] at hexpire
        exact absurd (decide_eq_true hle) hexpire

end Pool

namespace PoolHistory

variable {h h' : PoolHistory} {es : List Event} {size : Nat} {now : Instant}

/-- The instants at which the calls of a run began, in order. -/
def callInstants (es : List Event) (h : PoolHistory) : List Instant :=
  gathered step? (fun e h => match e with
    | .move m => Pool.calledAt h.now m
    | .pass _ => []) es h

theorem timedBy_of_run (hr : after? step? es (start size now) = some h) :
    h.pool.TimedBy h.now (callInstants es (start size now)) := by
  refine after?_induction
    (P := fun es h => h.pool.TimedBy h.now (callInstants es (start size now))) ?_ ?_ hr
  · exact ⟨rfl, by simp [start, Pool.ofSize]⟩
  · intro es e h h' hr hs ht
    rw [callInstants, gathered_snoc hr]
    cases e with
    | move m =>
        obtain ⟨pool, hp, rfl⟩ := step?_move hs
        exact ht.step hp
    | pass nanos =>
        cases hs
        rw [List.append_nil]
        refine ⟨ht.length_eq, ?_⟩
        intro i called j hcalled hj
        exact (ht.job i called j hcalled hj).mono (Nat.le_add_right ..)

theorem told_of_run (hr : after? step? es (start size now) = some h) :
    ∀ j ∈ h.pool.jobs, j.ToldInTime h.now := by
  refine after?_preserves (P := fun h => ∀ j ∈ h.pool.jobs, j.ToldInTime h.now) ?_ hr
    (by simp [start, Pool.ofSize])
  intro e h h' hs ht
  cases e with
  | move m =>
      obtain ⟨pool, hp, rfl⟩ := step?_move hs
      exact hp.toldInTime ht
  | pass nanos =>
      cases hs
      exact fun j hj => (ht j hj).mono (Nat.le_add_right ..)

/-- At a moment at which everything that is due was noticed, a running job that shows no time left
is cancelled if and only if all jobs are, or the time that it waited has passed once more since its
deadline. -/
theorem cancelled_at_deadline_iff (hr : after? step? es (start size now) = some h)
    (hstuck : h.pool.ownMoves h.now = []) {i : Nat} {j : Job Work} {since : Instant} {late : Bool}
    {limit : Span} (hj : h.pool.jobs[i]? = some j) (hs : j.stage = .running since late)
    (hlimit : j.limit = some limit) :
    ∃ called, (callInstants es (start size now))[i]? = some called ∧
      called ≤ since ∧ since ≤ h.now ∧
      j.context.deadline = some (called + limit.nanos) ∧
      (j.context.remaining h.now = some Span.zero ↔ called + limit.nanos ≤ h.now) ∧
      (h.pool.isCancelled j = true ↔ h.pool.cancelled = true ∨ since + limit.nanos ≤ h.now) ∧
      ((j.context.remaining h.now = some Span.zero → h.pool.isCancelled j = true) ↔
        h.pool.cancelled = true ∨ h.now < called + limit.nanos ∨ since + limit.nanos ≤ h.now) := by
  have htimed := timedBy_of_run hr
  have hi : i < (callInstants es (start size now)).length :=
    htimed.length_eq ▸ (List.getElem?_eq_some_iff.mp hj).1
  have hcalled := List.getElem?_eq_getElem hi
  generalize (callInstants es (start size now))[i] = called at hcalled
  have hjob := htimed.job i called j hcalled hj
  have hremaining := hjob.remaining_eq_zero hlimit
  have htold := Pool.isCancelled_iff_of_stuck hstuck (told_of_run hr j (List.mem_of_getElem? hj))
    hj hs hlimit
  obtain ⟨hle, hnow⟩ := hjob.taken since late hs
  refine ⟨called, hcalled, hle, hnow, by rw [hjob.deadline, hlimit]; rfl, hremaining, htold, ?_⟩
  rw [hremaining, htold]
  constructor
  · intro hlaw
    rcases Nat.lt_or_ge h.now (called + limit.nanos) with hlt | hge
    · exact .inr (.inl hlt)
    · exact (hlaw hge).imp_right .inr
  · rintro (hc | hlt | hle) hge
    · exact .inl hc
    · exact absurd hge (Nat.not_le_of_lt hlt)
    · exact .inr hle

/-- A run of a pool of one worker: a job with 200 ms waits 300 ms for the worker, and then runs. -/
def waitingRun : List Event :=
  let call (limit : Option Span) : Event := .move (.call "w1" (.ticker default) limit .external)
  [call none, .move .enqueue, .move .start, call (some (.ofMillis 200)), .move .enqueue,
    .pass (Instant.ofMillis 300), .move (.finish 0 none), .move .start]

theorem exists_waitingRun : ∃ h j, after? step? waitingRun (start 1 0) = some h ∧
    h.pool.IsQuiet h.now ∧ h.now = Instant.ofMillis 300 ∧ h.pool.cancelled = false ∧
    h.pool.jobs[1]? = some j ∧ j.stage = .running (Instant.ofMillis 300) false ∧
    j.limit = some (.ofMillis 200) ∧ j.context.remaining h.now = some .zero ∧
    h.pool.isCancelled j = false := by
  have hrun : (after? step? waitingRun (start 1 0)).any (fun h =>
      (h.pool.ownMoves h.now).isEmpty ∧ (∀ j ∈ h.pool.jobs, j.work.isRunnable = true) ∧
        h.now = Instant.ofMillis 300 ∧ h.pool.cancelled = false ∧
        (h.pool.jobs[1]?).any fun j => j.stage = .running (Instant.ofMillis 300) false ∧
          j.limit = some (.ofMillis 200) ∧ j.context.remaining h.now = some .zero ∧
          h.pool.isCancelled j = false) = true := by
    decide +kernel
  obtain ⟨h, hrun, hh⟩ := (Option.any_eq_true _ _).mp hrun
  obtain ⟨hstuck, hhandled, hnow, hcancelled, hjob⟩ := of_decide_eq_true hh
  obtain ⟨j, hj, hjob⟩ := (Option.any_eq_true _ _).mp hjob
  obtain ⟨hs, hlimit, hremaining, htold⟩ := of_decide_eq_true hjob
  have hquiet : h.pool.IsQuiet h.now :=
    ⟨List.isEmpty_iff.mp hstuck, fun j hj _ => hhandled j hj⟩
  exact ⟨h, j, hrun, hquiet, hnow, hcancelled, hj, hs, hlimit, hremaining, htold⟩

theorem waitingRun_late_by_its_wait :
    ∃ h j, after? step? waitingRun (start 1 0) = some h ∧ h.pool.ownMoves h.now = [] ∧
      h.pool.jobs[1]? = some j ∧ j.stage = .running (Instant.ofMillis 300) false ∧
      j.limit = some (.ofMillis 200) ∧ callInstants waitingRun (start 1 0) = [0, 0] ∧
      j.context.deadline = some (Instant.ofMillis 200) ∧
      ¬ (j.context.remaining h.now = some .zero → h.pool.isCancelled j = true) := by
  obtain ⟨h, j, hrun, hquiet, hnow, hcancelled, hj, hs, hlimit, -, -⟩ := exists_waitingRun
  have hcalls : callInstants waitingRun (start 1 0) = [0, 0] := by decide +kernel
  obtain ⟨called, hcalled, -, -, hdeadline, -, -, hlaw⟩ :=
    cancelled_at_deadline_iff hrun hquiet.stuck hj hs hlimit
  rw [hcalls] at hcalled
  obtain rfl : 0 = called := Option.some.inj hcalled
  refine ⟨h, j, hrun, hquiet.stuck, hj, hs, hlimit, hcalls, hdeadline, ?_⟩
  rw [hlaw, hcancelled, hnow]
  decide

/-- It is not so that a running callback that shows no time left is cancelled. -/
theorem waitingRun_runs_past_deadline :
    ¬ ∀ (es : List Event) (h : PoolHistory) (i : Nat) (j : Job Work) (since : Instant)
      (late : Bool), after? step? es (start 1 0) = some h → h.pool.IsQuiet h.now →
      h.pool.jobs[i]? = some j → j.stage = .running since late →
      j.context.remaining h.now = some .zero → h.pool.isCancelled j = true := by
  intro hlaw
  obtain ⟨h, j, hrun, hquiet, -, -, hj, hs, -, hremaining, htold⟩ := exists_waitingRun
  have hcancelled := hlaw waitingRun h 1 j _ _ hrun hquiet hj hs hremaining
  rw [htold] at hcancelled
  cases hcancelled

end PoolHistory

end TaskQueue
