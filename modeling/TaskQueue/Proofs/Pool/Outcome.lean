import TaskQueue.Proofs.Pool.Course
import TaskQueue.Proofs.Pool.Schedule

/-!
# What comes of accepted jobs

A session stops its clock at whole milliseconds, moves it only when everything is settled, and never
beyond the next timer. So every job that it accepts takes its course: it is told to stop at the tick
at which its timer goes off if it still runs then, on its own account and nobody else's, and it runs
to the end of its callback in any case.
-/

namespace TaskQueue

namespace Crew

variable {now : Instant} {c c' : Crew} {m : Pool.Move Work} {i k : Nat} {failure : Option Failure}

/-! ## Moves of a crew -/

theorem exists_of_finishing? (h : c.finishing? now k = some m) :
    ∃ j r, c.pool.jobs[k]? = some j ∧ c.records[k]? = some r ∧ j.isRunning = true ∧
      c.isDone now j r = true ∧ m = .finish k j.work.failure? := by
  rw [finishing?_eq] at h
  obtain ⟨j, hj, h⟩ := Option.bind_eq_some_iff.mp h
  obtain ⟨r, hr, h⟩ := Option.bind_eq_some_iff.mp h
  split at h
  case isTrue hover =>
    cases h
    rw [Bool.and_eq_true] at hover
    exact ⟨j, r, hj, hr, hover.1, hover.2, rfl⟩
  case isFalse => cases h

theorem finishing?_of_mem (h : .finish i failure ∈ c.ownMoves now) :
    c.finishing? now i = some (.finish i failure) := by
  simp only [ownMoves, List.mem_append, List.mem_map, List.mem_filterMap, List.mem_cons,
    List.not_mem_nil, or_false, reduceCtorEq, and_false, exists_false, false_or] at h
  obtain ⟨k, -, hk⟩ := h
  obtain ⟨_, _, -, -, -, -, heq⟩ := exists_of_finishing? hk
  cases heq
  exact hk

/-- No callback of a crew ends while the crew has still to notice that a job is late. -/
theorem punctual_of_next? (h : c.next? now = some m) : c.pool.Punctual now m where
  honest := honest_of_mem_ownMoves (List.mem_of_find?_eq_some h)
  noticed := by
    rintro i failure rfl
    rw [next?, ownMoves, List.append_assoc, List.append_assoc, List.find?_append,
      Option.or_eq_some_iff] at h
    rcases h with h | ⟨hnone, -⟩
    · obtain ⟨k, -, hk⟩ := List.mem_map.mp (List.mem_of_find?_eq_some h)
      cases hk
    · by_cases hi : i < c.pool.jobs.length
      · simpa using List.find?_eq_none.mp hnone (.expire i) (by simp [Pool.indices, hi])
      · simp [Pool.canMove, Pool.step?, List.getElem?_eq_none (Nat.le_of_not_lt hi)]

theorem punctual_of_isPrompt (h : m.isPrompt = true) : c.pool.Punctual now m := by
  cases m with
  | refuse | enqueue | cancel | close => exact ⟨trivial, nofun⟩
  | call | start | expire | finish => cases h

/-! ## Callbacks that come to their end -/

theorem getElem?_note_of_ne {f : JobRecord → JobRecord} (h : i ≠ k) :
    (c.note i f).records[k]? = c.records[k]? := by
  simp [note, h]

theorem getElem?_pollJob_of_ne (h : i ≠ k) : (c.pollJob now i).records[k]? = c.records[k]? := by
  unfold pollJob
  split
  · split
    · exact getElem?_note_of_ne h
    · rfl
  · rfl

theorem getElem?_noteStart_of_ne (h : i ≠ k) :
    (c.noteStart now i).records[k]? = c.records[k]? := by
  unfold noteStart
  split
  · exact getElem?_note_of_ne h
  · rfl

theorem isDone_noteMove_finish {j : Job Work} {r : JobRecord} (hj : c.pool.jobs[i]? = some j)
    (hr : c.records[i]? = some r) (hrunning : j.isRunning = true) :
    ((c.noteMove now (.finish i failure)).records[i]?).any (·.progress.isDone) =
      (c.progress now j r).isDone := by
  simp [noteMove, noteFinish, pollJob, hj, hrunning, note, hr, JobRecord.report]

/-- A callback that ended had nothing left to do. -/
def RanOut (c : Crew) : Prop :=
  ∀ (k : Nat) (j : Job Work) callback payload result, c.pool.jobs[k]? = some j →
    j.work = .callback callback payload → j.stage = .ended result →
    (c.records[k]?).any (·.progress.isDone) = true

namespace RanOut

variable {f : Job Work → Job Work} {j : Job Work}

theorem modify (hc : c.RanOut) (hj : c.pool.jobs[i]? = some j) (hpool : c'.pool = c.pool.modify i f)
    (hother : ∀ k ≠ i, c'.records[k]? = c.records[k]?)
    (hself : ∀ callback payload result, (f j).work = .callback callback payload →
      (f j).stage = .ended result → (c'.records[i]?).any (·.progress.isDone) = true) :
    c'.RanOut := by
  intro k j' callback payload result hj' hwork hstage
  rw [hpool, Pool.getElem?_modify hj] at hj'
  split at hj'
  · subst k
    cases hj'
    exact hself _ _ _ hwork hstage
  · rw [hother k (Ne.symm ‹_›)]
    exact hc k j' _ _ _ hj' hwork hstage

theorem congr (hc : c.RanOut) (hjobs : c'.pool.jobs = c.pool.jobs)
    (hrecords : c'.records.map (·.progress) = c.records.map (·.progress)) : c'.RanOut := by
  intro k j callback payload result hj hwork hstage
  have hk := congrArg (·[k]?.any CallbackProgress.isDone) hrecords
  simp only [List.getElem?_map, Option.any_map] at hk
  exact hk ▸ hc k j _ _ _ (hjobs ▸ hj) hwork hstage

theorem append {r : JobRecord} (hc : c.RanOut) (hjobs : c'.pool.jobs = c.pool.jobs ++ [j])
    (hrecords : c'.records = c.records ++ [r]) (hstage : ∀ result, j.stage ≠ .ended result) :
    c'.RanOut := by
  intro k j' callback payload result hj hwork hended
  rw [hjobs, List.getElem?_append] at hj
  split at hj
  · have hk := hc k j' _ _ _ hj hwork hended
    obtain ⟨_, hr, -⟩ := (Option.any_eq_true _ _).mp hk
    have hlt : k < c.records.length := (List.getElem?_eq_some_iff.mp hr).1
    rwa [hrecords, List.getElem?_append_left hlt]
  · obtain rfl : j = j' := List.mem_singleton.mp (List.mem_of_getElem? hj) |>.symm
    exact absurd hended (hstage result)

theorem step (hc : c.RanOut)
    (hm : ∀ i failure, m = .finish i failure → c.finishing? now i = some (.finish i failure))
    (h : c.step? now m = some c') : c'.RanOut := by
  have hp := Pool.step?_sound (step?_pool h)
  obtain ⟨pool, -, rfl⟩ := Option.map_eq_some_iff.mp h
  cases hp with
  | called =>
      refine hc.append rfl rfl fun result hstage => ?_
      cases hcl : c.pool.closed <;> simp [Pool.firstStage, hcl] at hstage
  | refused _ hj _ =>
      exact hc.modify hj rfl (fun k hk => getElem?_note_of_ne hk.symm)
        fun _ _ _ _ hstage => by cases hstage
  | admitted _ _ hi hj _ =>
      refine hc.modify hj rfl (fun k hk => ?_) fun _ _ _ _ hstage => by cases hstage
      simp only [noteMove, hi, note?]
      exact getElem?_note_of_ne hk.symm
  | started _ hi hj _ =>
      refine hc.modify hj rfl (fun k hk => ?_) fun _ _ _ _ hstage => by cases hstage
      simp only [noteMove, hi]
      exact getElem?_noteStart_of_ne hk.symm
  | expired hj _ _ _ =>
      exact hc.modify hj rfl (fun k hk => getElem?_note_of_ne hk.symm)
        fun _ _ _ _ hstage => by cases hstage
  | @finished i j since late failure hj hs =>
      refine hc.modify hj rfl (fun k hk => ?_) fun callback payload result hwork _ => ?_
      · exact (getElem?_note_of_ne hk.symm).trans (getElem?_pollJob_of_ne hk.symm)
      · -- A callback is let end only when it has nothing left to do.
        obtain ⟨j', r, hj', hr, hrunning, hdone, -⟩ := exists_of_finishing? (hm i failure rfl)
        cases hj.symm.trans hj'
        have hcallback : j.work = .callback callback payload := hwork
        simp only [isDone, hcallback] at hdone
        simpa [isDone_noteMove_finish hj hr hrunning] using hdone
  | cancelled =>
      refine hc.congr rfl ?_
      simp only [noteMove, List.map_map]
      rfl
  | closed => exact hc

/-- Callbacks that ended are not looked at any more. -/
theorem pollAll (hc : c.RanOut) : (c.pollAll now).RanOut := by
  unfold Crew.pollAll
  refine List.foldlRecOn (motive := Crew.RanOut) _ _ hc fun c hc i _ => ?_
  intro k j callback payload result hj hwork hstage
  rw [pollJob_pool] at hj
  have hk := hc k j _ _ _ hj hwork hstage
  by_cases hik : i = k
  · subst i
    simpa [pollJob, hj, Job.isRunning, hstage] using hk
  · rwa [getElem?_pollJob_of_ne hik]

end RanOut

/-! ## Timers -/

theorem nextTimer?_le {timer t : Instant} {j : Job Work} (h : c.nextTimer? = some timer)
    (hj : j ∈ c.pool.jobs) (ht : j.due? = some t) : timer ≤ Instant.tick t := by
  have hmem : t ∈ c.pool.jobs.filterMap Job.due? := List.mem_filterMap.mpr ⟨j, hj, ht⟩
  cases hdue : c.pool.nextDue? with
  | none => simp [List.min?_eq_none_iff.mp hdue] at hmem
  | some due =>
      have hle : due ≤ t := (List.min?_eq_some_iff.mp hdue).2 t hmem
      have htimer : timer ≤ Instant.tick due := by
        refine (List.min?_eq_some_iff.mp h).2 _ (List.mem_map_of_mem ?_)
        simp [hdue]
      exact Nat.le_trans htimer (Instant.tick_mono hle)

theorem due?_eq_none {t : Instant} {j : Job Work} (h : c.nextTimer? = none) (hj : j ∈ c.pool.jobs) :
    j.due? ≠ some t := by
  intro ht
  have hmem : t ∈ c.pool.jobs.filterMap Job.due? := List.mem_filterMap.mpr ⟨j, hj, ht⟩
  have hnil := List.map_eq_nil_iff.mp (List.min?_eq_none_iff.mp h)
  cases hdue : c.pool.nextDue? with
  | none => simp [List.min?_eq_none_iff.mp hdue] at hmem
  | some due => simp [hdue] at hnil

theorem dvd_nextTimer? {timer : Instant} (h : c.nextTimer? = some timer) :
    Instant.nanosPerMilli ∣ timer := by
  obtain ⟨t, -, rfl⟩ := List.mem_map.mp (List.min?_eq_some_iff.mp h).1
  exact Instant.dvd_tick

end Crew

namespace PoolHistory

/-- What happened to a job in a run, and when. -/
def milestones (k : Nat) (es : List Event) (h : PoolHistory) : List (Instant × Milestone) :=
  gathered step? (fun e h => match e with
    | .move m => h.pool.milestones h.now m k
    | .pass _ => []) es h

end PoolHistory

namespace PoolSession

/-- The states that sessions with a pool of some size go through, with the events of the pool that
lead there. -/
inductive Visits (size : Nat) : List PoolHistory.Event → PoolSession → Prop where
  | start : Visits size [] { crew := .ofSize size }
  | moved {es s m crew} : Visits size es s → s.crew.next? s.now = some m ∨ m.isPrompt = true →
      s.crew.step? s.now m = some crew → Visits size (es ++ [.move m]) { s with crew }
  | called {es s job crew} : Visits size es s → s.crew.call? s.now job = some crew →
      Visits size (es ++ [.move (.call job.worker job.subject job.limit job.work)]) { s with crew }
  | polled {es s} : Visits size es s → Visits size es { s with crew := s.crew.pollAll s.now }
  | passed {es s s' until?} : Visits size es s → s.crew.pool.IsQuiet s.now →
      (∀ target ∈ until?, Instant.nanosPerMilli ∣ target) → s.tick? until? = some s' →
      Visits size (es ++ [.pass (s'.now - s.now)]) s'

variable {s s' : PoolSession} {es : List PoolHistory.Event} {size : Nat} {m : Pool.Move Work}
  {until? : Option Instant}

/-- The clock moves to a timer, or to what the client waits for, and beyond no timer. -/
theorem tick?_eq (h : s.tick? until? = some s') :
    ∃ now, s' = { s with now } ∧ s.now ≤ now ∧
      (∀ j ∈ s.crew.pool.jobs, ∀ t, j.due? = some t → now ≤ max s.now (Instant.tick t)) ∧
      (Instant.nanosPerMilli ∣ s.now → (∀ target ∈ until?, Instant.nanosPerMilli ∣ target) →
        Instant.nanosPerMilli ∣ now) := by
  unfold tick? at h
  cases htimer : s.crew.nextTimer? with
  | none =>
      cases until? with
      | none => rw [htimer] at h; cases h
      | some target =>
          rw [htimer] at h
          cases h
          refine ⟨_, rfl, Nat.le_max_left .., fun j hj t ht => ?_, fun hnow htarget => ?_⟩
          · exact absurd ht (Crew.due?_eq_none htimer hj)
          · exact Instant.dvd_max hnow (htarget target rfl)
  | some timer =>
      have hdvd := Crew.dvd_nextTimer? htimer
      have hle {now : Nat} (hnow : now ≤ timer) (j : Job Work) (hj : j ∈ s.crew.pool.jobs)
          (t : Instant) (ht : j.due? = some t) : max s.now now ≤ max s.now (Instant.tick t) :=
        Nat.max_le.mpr ⟨Nat.le_max_left .., Nat.le_trans hnow
          (Nat.le_trans (Crew.nextTimer?_le htimer hj ht) (Nat.le_max_right ..))⟩
      cases until? with
      | none =>
          rw [htimer] at h
          cases h
          exact ⟨_, rfl, Nat.le_max_left .., hle (Nat.le_refl _),
            fun hnow _ => Instant.dvd_max hnow hdvd⟩
      | some target =>
          rw [htimer] at h
          cases h
          exact ⟨_, rfl, Nat.le_max_left .., hle (Nat.min_le_left ..), fun hnow htarget =>
            Instant.dvd_max hnow (Instant.dvd_min hdvd (htarget target rfl))⟩

namespace Visits

theorem follows (h : Visits size es s) : s.FollowsBy (.start size 0) es := by
  induction h with
  | start => exact ⟨_, rfl, rfl, rfl⟩
  | moved _ _ hc ih => exact ih.move hc
  | called _ hc ih => exact ih.call hc
  | polled _ ih => exact ih.withPool Crew.pollAll_pool
  | passed _ _ _ ht ih =>
      obtain ⟨now, rfl, hle, -⟩ := tick?_eq ht
      exact ih.pass hle

theorem recorded (h : Visits size es s) : s.crew.IsRecorded := by
  suffices hhas : s.crew.Has 0 from hhas.recorded
  induction h with
  | start => exact ⟨rfl, Nat.zero_le _⟩
  | moved _ _ hc ih => exact ih.step hc
  | called _ hc ih => exact ih.call hc
  | polled _ ih => exact ih.pollAll
  | passed _ _ _ ht ih =>
      obtain ⟨now, rfl, -⟩ := tick?_eq ht
      exact ih

theorem whole (h : Visits size es s) : Instant.nanosPerMilli ∣ s.now := by
  induction h with
  | start => exact Nat.dvd_zero _
  | moved _ _ _ ih | called _ _ ih | polled _ ih => exact ih
  | passed _ _ htarget ht ih =>
      obtain ⟨now, rfl, -, -, hwhole⟩ := tick?_eq ht
      exact hwhole ih htarget

/-- Sessions go through nothing else. -/
theorem steady (size : Nat) : Steady fun s => ∃ es, Visits size es s where
  move := by
    rintro s m crew ⟨es, hs⟩ hm hc
    exact ⟨_, hs.moved hm hc⟩
  call := by
    rintro s job crew ⟨es, hs⟩ hc
    exact ⟨_, hs.called hc⟩
  poll := by
    rintro s ⟨es, hs⟩
    exact ⟨es, hs.polled⟩
  pass := by
    rintro s s' until? ⟨es, hs⟩ ⟨es', hs'⟩ huntil ht
    refine ⟨_, hs'.passed (Crew.settle_isQuiet hs.recorded) (fun target htarget => ?_) ht⟩
    obtain ⟨s₁, millis, ⟨_, hs₁⟩, rfl⟩ := huntil target htarget
    exact Nat.dvd_add hs₁.whole (Nat.dvd_mul_left ..)

theorem cancelled_iff (h : Visits size es s) :
    s.crew.pool.cancelled = true ↔ .move .cancel ∈ es := by
  induction h with
  | start => simp [Crew.ofSize, Pool.ofSize]
  | moved _ _ hc ih =>
      rw [(Pool.step?_sound (Crew.step?_pool hc)).cancelled_iff, ih]
      simp [eq_comm]
  | called _ hc ih =>
      obtain ⟨called, hm, rfl⟩ := Option.map_eq_some_iff.mp hc
      refine (Pool.step?_sound (Crew.step?_pool hm)).cancelled_iff.trans ?_
      simp [ih]
  | polled _ ih => simpa [Crew.pollAll_pool] using ih
  | passed _ _ _ ht ih =>
      obtain ⟨now, rfl, -⟩ := tick?_eq ht
      simpa using ih

theorem milestones_move (h : Visits size es s) (k : Nat) :
    PoolHistory.milestones k (es ++ [.move m]) (.start size 0) =
      PoolHistory.milestones k es (.start size 0) ++ s.crew.pool.milestones s.now m k := by
  obtain ⟨h', hr, hnow, hpool⟩ := h.follows
  rw [PoolHistory.milestones, gathered_snoc hr, hnow, hpool]
  rfl

theorem milestones_pass (h : Visits size es s) (k nanos : Nat) :
    PoolHistory.milestones k (es ++ [.pass nanos]) (.start size 0) =
      PoolHistory.milestones k es (.start size 0) := by
  obtain ⟨h', hr, -, -⟩ := h.follows
  rw [PoolHistory.milestones, gathered_snoc hr, List.append_nil]
  rfl

theorem courses (h : Visits size es s) : s.crew.pool.Courses s.now
    fun k => PoolHistory.milestones k es (.start size 0) := by
  induction h with
  | start => exact ⟨fun hj => (nomatch hj), fun _ => rfl⟩
  | moved hv hm hc ih =>
      simp only [hv.milestones_move]
      refine ih.step hv.whole ?_ (Pool.step?_sound (Crew.step?_pool hc))
      exact hm.elim Crew.punctual_of_next? Crew.punctual_of_isPrompt
  | called hv hc ih =>
      obtain ⟨called, hm, rfl⟩ := Option.map_eq_some_iff.mp hc
      simp only [hv.milestones_move]
      have hstep := Pool.step?_sound (Crew.step?_pool hm)
      have hcalled := fun hpunctual => ih.step hv.whole hpunctual hstep
      exact hcalled ⟨trivial, nofun⟩
  | polled _ ih => exact Crew.pollAll_pool.symm ▸ ih
  | passed hv hquiet _ ht ih =>
      obtain ⟨now, rfl, hle, hdue, -⟩ := tick?_eq ht
      simp only [hv.milestones_pass]
      exact ih.pass hquiet hle hdue

theorem ranOut (h : Visits size es s) : s.crew.RanOut := by
  induction h with
  | start => exact fun _ _ _ _ _ hj => (nomatch hj)
  | moved _ hm hc ih =>
      refine ih.step ?_ hc
      rintro i failure rfl
      rcases hm with hm | hm
      · exact Crew.finishing?_of_mem (List.mem_of_find?_eq_some hm)
      · cases hm
  | called _ hc ih =>
      obtain ⟨called, hm, rfl⟩ := Option.map_eq_some_iff.mp hc
      refine (ih.step ?_ hm).congr rfl (map_modify_of_blind fun _ => rfl)
      exact nofun
  | polled _ ih => exact ih.pollAll
  | passed _ _ _ ht ih =>
      obtain ⟨now, rfl, -⟩ := tick?_eq ht
      exact ih

end Visits

end PoolSession

/-! ## Results -/

/-- Whether a result is one that went well, or is worded by one failure, or by one and the deadline
after it on a line of its own. -/
def RunResult.IsWorded (r : RunResult) : Prop :=
  r.isOk = true ∨ (∃ f, r.failures = [f] ∧ r.message = f.message) ∨
    ∃ f d, r.failures = [f, .deadlineExceeded d] ∧
      r.message = f.message ++ "\n" ++ (Failure.deadlineExceeded d).message

theorem RunResult.isWorded (own : Option Failure) (d : Span) :
    RunResult.IsWorded ⟨own.toList⟩ ∧
      RunResult.IsWorded ⟨own.toList ++ [.deadlineExceeded d]⟩ := by
  cases own with
  | none => exact ⟨.inl rfl, .inr (.inl ⟨_, rfl, rfl⟩)⟩
  | some f => exact ⟨.inr (.inl ⟨f, rfl, rfl⟩), .inr (.inr ⟨f, d, rfl, rfl⟩)⟩

namespace Job

variable {now : Instant} {j : Job Work} {ms : List (Instant × Milestone)}

theorem Course.isWorded {result : RunResult} (h : j.Course now ms) (hs : j.stage = .ended result) :
    result.IsWorded := by
  cases h with
  | untaken hj => simp [isTaken, hs] at hj
  | running hs' | late hs' => cases hs.symm.trans hs'
  | inTime hs' =>
      cases hs.symm.trans hs'
      exact (RunResult.isWorded _ .zero).1
  | overdue hs' =>
      cases hs.symm.trans hs'
      exact (RunResult.isWorded _ _).2

/-- What holds of a job of a session at any time, given what happened to it. -/
structure Accounted (s : PoolSession) (i : Nat) (ms : List (Instant × Milestone)) (j : Job Work) :
    Prop where
  /-- It ends with its own failure if it has one, and when it was told to stop at the tick of its
  deadline with that of the deadline after it. -/
  course : j.Course s.now ms
  /-- It is told to stop on its own account then, and at no other time. -/
  told : j.cancelled = true ↔ ∃ t, (t, .stopped) ∈ ms
  /-- When everything is settled, no time is up of which it was not told. -/
  noticed : s.crew.pool.IsQuiet s.now → ∀ since d, j.stage = .running since false →
    j.limit = some d → s.now < since + d.nanos
  /-- Its callback ended only when it had nothing left to do. -/
  ranOut : ∀ callback payload result, j.work = .callback callback payload →
    j.stage = .ended result → (s.crew.records[i]?).any (·.progress.isDone) = true
  worded : ∀ result, j.stage = .ended result → result.IsWorded

end Job

namespace PoolSession

variable {s : PoolSession} {es : List PoolHistory.Event} {size i : Nat} {j : Job Work}

theorem Visits.accounted (h : Visits size es s) (hj : s.crew.pool.jobs[i]? = some j) :
    j.Accounted s i (PoolHistory.milestones i es (.start size 0)) := by
  have hcourse := h.courses.job hj
  exact ⟨hcourse, hcourse.cancelled_iff, fun hquiet _ _ hs hd => hquiet.not_due hj hs hd,
    fun _ _ _ hwork hs => h.ranOut i j _ _ _ hj hwork hs, fun _ hs => hcourse.isWorded hs⟩

/-- Each job of a session takes its course, whatever the client does, whatever the callbacks do and
whichever of them heed that they are told to stop: the parent of all is cancelled only by the
client, a late job keeps its worker, and a session that comes to its end has been through nothing
else and leaves no job that is not over. -/
theorem results_of_visits (size : Nat) :
    (∀ es s, Visits size es s → s.FollowsBy (.start size 0) es ∧ s.crew.pool.Bounded ∧
      (s.crew.pool.cancelled = true ↔ .move .cancel ∈ es) ∧
      ∀ (i : Nat) j, s.crew.pool.jobs[i]? = some j →
        j.Accounted s i (PoolHistory.milestones i es (.start size 0))) ∧
    ∀ steps s outcomes, run? size steps = some (s, outcomes) →
      (∃ es, Visits size es s) ∧ s.crew.pool.isDrained = true := by
  refine ⟨fun es s hs => ?_, fun steps s outcomes hr => ?_⟩
  · obtain ⟨h, hr, -, hpool⟩ := hs.follows
    exact ⟨hs.follows, hpool ▸ (PoolHistory.bounded_of_run hr).2, hs.cancelled_iff,
      fun i j => hs.accounted⟩
  · exact ⟨(Visits.steady size).runSteps ⟨[], .start⟩ hr, (runSteps_closed hr).2⟩

/-- A session in which a callback has 10 ms and goes on for 30, and then fails; a second one fails
at once, and a third has a payload that does not decode. -/
def lateSteps : List ClientStep :=
  let submit (limit : Option Span) (work : Work) : ClientStep :=
    .submit ⟨"w1", .ticker default, limit, work, .returned⟩ true
  [submit (some (.ofMillis 10))
      (.callback { steps := [.sleep 30], ending := .panic (some "gone") } .null),
    submit none (.callback { ending := .panic none } .null),
    submit none (.undecodable "no payload")]

theorem lateSteps_results : ∃ s es j, Visits 1 es s ∧ s.crew.pool.jobs[0]? = some j ∧
    j.stage = .ended ⟨[.panic "gone", .deadlineExceeded (.ofMillis 10)]⟩ ∧
    j.Accounted s 0 (PoolHistory.milestones 0 es (.start 1 0)) := by
  have hrun : (run? 1 lateSteps).any (fun reached => (reached.1.crew.pool.jobs[0]?).any fun j =>
      j.stage = .ended ⟨[.panic "gone", .deadlineExceeded (.ofMillis 10)]⟩) = true := by
    decide +kernel
  obtain ⟨⟨s, outcomes⟩, hrun, hj⟩ := (Option.any_eq_true _ _).mp hrun
  obtain ⟨j, hj, hs⟩ := (Option.any_eq_true _ _).mp hj
  obtain ⟨hvisits, hruns⟩ := results_of_visits 1
  obtain ⟨⟨es, hes⟩, -⟩ := hruns _ s outcomes hrun
  exact ⟨s, es, j, hes, hj, of_decide_eq_true hs, (hvisits es s hes).2.2.2 0 j hj⟩

end PoolSession

end TaskQueue
