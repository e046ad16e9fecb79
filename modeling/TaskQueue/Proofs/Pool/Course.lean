import TaskQueue.Proofs.Pool.Cancellation
import TaskQueue.Proofs.Pool.Turnout

/-!
# The course of a job

What happens to a job once a worker took it: it is told to stop if its time is up while it runs, and
it ends. A job that ends before its time is up has the result of its own. One that does not is told
to stop when its timer goes off, goes on until it ends, and fails for being late besides.

A timer goes off at the first whole millisecond at which the time is up, so all this takes a clock
that stops at whole milliseconds, and a pool that notices late jobs before it does anything else.
-/

namespace TaskQueue

namespace Instant

variable {i now later : Nat}

theorem dvd_tick : nanosPerMilli ∣ tick i := Nat.dvd_mul_left ..

theorem dvd_max {n : Nat} (hnow : n ∣ now) (hlater : n ∣ later) : n ∣ max now later := by
  rcases Nat.le_total now later with hle | hle
  · rwa [Nat.max_eq_right hle]
  · rwa [Nat.max_eq_left hle]

theorem dvd_min {n : Nat} (hnow : n ∣ now) (hlater : n ∣ later) : n ∣ min now later := by
  rcases Nat.le_total now later with hle | hle
  · rwa [Nat.min_eq_left hle]
  · rwa [Nat.min_eq_right hle]

theorem le_tick : i ≤ (tick i : Nat) := by
  simp only [tick, nanosPerMilli]
  omega

theorem tick_mono (h : i ≤ later) : (tick i : Nat) ≤ tick later :=
  Nat.mul_le_mul_right _ (Nat.div_le_div_right (Nat.add_le_add_right h _))

theorem tick_le (hwhole : nanosPerMilli ∣ now) (h : i ≤ now) : (tick i : Nat) ≤ now := by
  obtain ⟨millis, rfl⟩ := hwhole
  have hmillis : (i + (nanosPerMilli - 1)) / nanosPerMilli ≤ millis := by
    simp only [nanosPerMilli] at h ⊢
    omega
  exact Nat.mul_comm nanosPerMilli millis ▸ Nat.mul_le_mul_right nanosPerMilli hmillis

end Instant

/-- What happens to a job after it was accepted. -/
inductive Milestone where
  /-- A worker takes it. -/
  | taken
  /-- It is told to stop on its own account. -/
  | stopped
  | ended (result : RunResult)
deriving Repr, DecidableEq

namespace Job

def result? (failure : Option Failure) (j : Job Work) : Option RunResult :=
  match j.stage with
  | .running _ late => some (j.resultOf late failure)
  | _ => none

/-- What has happened to a job by an instant, in accordance with its stage. Where no handler runs
since the payload does not decode, the job ends when it is taken. -/
inductive Course (now : Instant) (j : Job Work) : List (Instant × Milestone) → Prop where
  | untaken : j.isTaken = false → j.cancelled = false → Course now j []
  | running {s : Instant} : j.stage = .running s false → j.cancelled = false → s ≤ now →
      (∀ d ∈ j.limit, now ≤ Instant.tick (s + d.nanos)) → (j.work.isRunnable = false → s = now) →
      Course now j [(s, .taken)]
  | late {s : Instant} {d : Span} : j.stage = .running s true → j.cancelled = true →
      j.limit = some d → Instant.tick (s + d.nanos) ≤ now → (j.work.isRunnable = false → s = now) →
      Course now j [(s, .taken), (Instant.tick (s + d.nanos), .stopped)]
  | inTime {s f : Instant} : j.stage = .ended ⟨j.work.failure?.toList⟩ → j.cancelled = false →
      s ≤ f → f ≤ now → (∀ d ∈ j.limit, f < s + d.nanos) → (j.work.isRunnable = false → s = f) →
      Course now j [(s, .taken), (f, .ended ⟨j.work.failure?.toList⟩)]
  | overdue {s f : Instant} {d : Span} :
      j.stage = .ended ⟨j.work.failure?.toList ++ [.deadlineExceeded d]⟩ → j.cancelled = true →
      j.limit = some d → Instant.tick (s + d.nanos) ≤ f → f ≤ now →
      (j.work.isRunnable = false → s = f) →
      Course now j [(s, .taken), (Instant.tick (s + d.nanos), .stopped),
        (f, .ended ⟨j.work.failure?.toList ++ [.deadlineExceeded d]⟩)]

namespace Course

variable {now later : Instant} {j : Job Work} {ms : List (Instant × Milestone)} {s : Instant}

theorem of_untaken (h : j.Course now ms) (hj : j.isTaken = false) :
    ms = [] ∧ j.cancelled = false := by
  cases h with
  | untaken _ hcancelled => exact ⟨rfl, hcancelled⟩
  | running hs | late hs | inTime hs | overdue hs => simp [isTaken, hs] at hj

/-- A job that was told to stop was told so on the way. -/
theorem cancelled_iff (h : j.Course now ms) :
    j.cancelled = true ↔ ∃ t, (t, .stopped) ∈ ms := by
  cases h with
  | untaken _ hc | running _ hc | inTime _ hc => simp [hc]
  | late _ hc | overdue _ hc => simp [hc]

theorem start (hc : j.cancelled = false) :
    Course now { j with stage := .running now false } [(now, .taken)] :=
  .running rfl hc (Nat.le_refl _)
    (fun _ _ => Nat.le_trans (Nat.le_add_right ..) Instant.le_tick) fun _ => rfl

theorem expire {d : Span} (h : j.Course now ms) (hs : j.stage = .running s false)
    (hd : j.limit = some d) (hwhole : Instant.nanosPerMilli ∣ now) (hdue : s + d.nanos ≤ now) :
    Course now { j with cancelled := true, stage := .running s true }
      (ms ++ [(now, .stopped)]) := by
  cases h with
  | untaken hj => simp [isTaken, hs] at hj
  | late hs' | inTime hs' | overdue hs' => cases hs.symm.trans hs'
  | running hs' hc hle htick hwork =>
      cases hs.symm.trans hs'
      -- the clock has not gone past the timer, and cannot stop before it
      have hnow : Instant.tick (s + d.nanos) = now :=
        Nat.le_antisymm (Instant.tick_le hwhole hdue) (htick d hd)
      have hlate : Course now { j with cancelled := true, stage := .running s true }
          [(s, .taken), (Instant.tick (s + d.nanos), .stopped)] :=
        .late rfl rfl hd (Nat.le_of_eq hnow) hwork
      rwa [hnow] at hlate

theorem finish {late : Bool} (h : j.Course now ms) (hs : j.stage = .running s late)
    (hnoticed : late = false → ∀ d ∈ j.limit, now < s + d.nanos) :
    Course now { j with stage := .ended (j.resultOf late j.work.failure?) }
      (ms ++ [(now, .ended (j.resultOf late j.work.failure?))]) := by
  cases h with
  | untaken hj => simp [isTaken, hs] at hj
  | inTime hs' | overdue hs' => cases hs.symm.trans hs'
  | running hs' hc hle _ hwork =>
      cases hs.symm.trans hs'
      have hresult : j.resultOf false j.work.failure? = ⟨j.work.failure?.toList⟩ := by
        simp [resultOf]
      rw [hresult]
      exact .inTime rfl hc hle (Nat.le_refl _) (hnoticed rfl) hwork
  | @late s' d hs' hc hd hle hwork =>
      cases hs.symm.trans hs'
      have hresult : j.resultOf true j.work.failure? =
          ⟨j.work.failure?.toList ++ [.deadlineExceeded d]⟩ := by
        simp [resultOf, hd]
      rw [hresult]
      exact .overdue rfl hc hd hle (Nat.le_refl _) hwork

theorem mono (h : j.Course now ms) (hle : now ≤ later)
    (hwork : j.isRunning = true → j.work.isRunnable = true)
    (hdue : ∀ s d, j.stage = .running s false → j.limit = some d →
      later ≤ Instant.tick (s + d.nanos)) : j.Course later ms := by
  have hhandled {s : Instant} {late : Bool} (hs : j.stage = .running s late)
      (hnot : j.work.isRunnable = false) : s = later := by
    rw [hwork (by simp [isRunning, hs])] at hnot
    cases hnot
  cases h with
  | untaken hj hc => exact .untaken hj hc
  | running hs hc hs' _ _ =>
      exact .running hs hc (Nat.le_trans hs' hle) (fun d hd => hdue _ d hs hd) (hhandled hs)
  | late hs hc hd ht _ => exact .late hs hc hd (Nat.le_trans ht hle) (hhandled hs)
  | inTime hs hc hf hf' ht hw => exact .inTime hs hc hf (Nat.le_trans hf' hle) ht hw
  | overdue hs hc hd ht hf hw => exact .overdue hs hc hd ht (Nat.le_trans hf hle) hw

end Course

end Job

namespace Pool

variable {now later : Instant} {p p' : Pool Work} {m : Move Work} {i k : Nat} {j : Job Work}
  {ms : Nat → List (Instant × Milestone)}

/-- The job to which something happens with a move, and what. -/
def milestone? (p : Pool Work) : Move Work → Option (Nat × Milestone)
  | .start => (p.jobs.findIdx? Job.isQueued).map (·, .taken)
  | .expire i => some (i, .stopped)
  | .finish i failure =>
    ((p.jobs[i]?).bind (·.result? failure)).map fun result => (i, .ended result)
  | .call .. | .refuse _ | .enqueue | .cancel | .close => none

/-- What happens to one job with a move at an instant. -/
def milestones (p : Pool Work) (now : Instant) (m : Move Work) (k : Nat) :
    List (Instant × Milestone) :=
  match p.milestone? m with
  | some (i, milestone) => if i = k then [(now, milestone)] else []
  | none => []

theorem milestones_of_some (now : Instant) {milestone : Milestone}
    (h : p.milestone? m = some (i, milestone)) :
    p.milestones now m i = [(now, milestone)] ∧ ∀ k ≠ i, p.milestones now m k = [] := by
  simp only [milestones, h, if_true, true_and]
  exact fun k hk => if_neg hk.symm

theorem milestones_of_none (h : p.milestone? m = none) : p.milestones now m k = [] := by
  simp [milestones, h]

/-- At a quiet moment no time is up that was not noticed. -/
theorem IsQuiet.not_due {since : Instant} {limit : Span} (hquiet : p.IsQuiet now)
    (hj : p.jobs[i]? = some j) (hs : j.stage = .running since false)
    (hlimit : j.limit = some limit) : now < since + limit.nanos := by
  have hi : i < p.jobs.length := (List.getElem?_eq_some_iff.mp hj).1
  have hexpire := List.filter_eq_nil_iff.mp hquiet.stuck (.expire i) (by simp [indices, hi])
  rw [canMove_expire hj hs hlimit, decide_eq_true_eq] at hexpire
  exact Nat.lt_of_not_le hexpire

/-- What has happened to each job. Nothing has to one that was not called. -/
structure Courses (now : Instant) (ms : Nat → List (Instant × Milestone)) (p : Pool Work) :
    Prop where
  job : ∀ {k : Nat} {j : Job Work}, p.jobs[k]? = some j → j.Course now (ms k)
  none : ∀ {k : Nat}, p.jobs.length ≤ k → ms k = []

/-- A move that ends a callback ends it as its work says, and not when the pool has still to notice
that the job is late. -/
structure Punctual (now : Instant) (p : Pool Work) (m : Move Work) : Prop where
  honest : p.Honest m
  noticed : ∀ i failure, m = .finish i failure → p.canMove now (.expire i) = false

namespace Courses

theorem modify {f : Job Work → Job Work} {new : Nat → List (Instant × Milestone)}
    (hc : p.Courses now ms) (hj : p.jobs[i]? = some j) (hf : (f j).Course now (ms i ++ new i))
    (hnew : ∀ k ≠ i, new k = []) : (p.modify i f).Courses now fun k => ms k ++ new k where
  job := by
    intro k j' hk
    rw [getElem?_modify hj] at hk
    split at hk
    · subst k
      cases hk
      exact hf
    · rw [hnew k (Ne.symm ‹_›), List.append_nil]
      exact hc.job hk
  none := by
    intro k hk
    rw [length_modify] at hk
    have hi : i < p.jobs.length := (List.getElem?_eq_some_iff.mp hj).1
    rw [hc.none hk, hnew k (by omega), List.nil_append]

theorem keep {f : Job Work → Job Work} (hc : p.Courses now ms) (hj : p.jobs[i]? = some j)
    (hs : j.isTaken = false) (hf : (f j).isTaken = false)
    (hcancelled : (f j).cancelled = j.cancelled) (hm : p.milestone? m = .none) :
    (p.modify i f).Courses now fun k => ms k ++ p.milestones now m k := by
  obtain ⟨hnil, hfree⟩ := (hc.job hj).of_untaken hs
  refine hc.modify hj ?_ fun k _ => milestones_of_none hm
  rw [hnil, milestones_of_none hm]
  exact .untaken hf (hcancelled.trans hfree)

theorem append (hc : p.Courses now ms) (htaken : j.isTaken = false)
    (hcancelled : j.cancelled = false) : Courses now ms { p with jobs := p.jobs ++ [j] } where
  job := by
    intro k j' hj
    rcases Nat.lt_trichotomy k p.jobs.length with hk | rfl | hk
    · rw [List.getElem?_append_left hk] at hj
      exact hc.job hj
    · rw [List.getElem?_concat_length, Option.some.injEq] at hj
      subst hj
      rw [hc.none (Nat.le_refl _)]
      exact .untaken htaken hcancelled
    · have hlt := (List.getElem?_eq_some_iff.mp hj).1
      simp only [List.length_append, List.length_singleton] at hlt
      omega
  none := by
    intro k hk
    simp only [List.length_append, List.length_singleton] at hk
    exact hc.none (by omega)

theorem step (hc : p.Courses now ms) (hwhole : Instant.nanosPerMilli ∣ now)
    (hm : p.Punctual now m) (h : Step now p m p') :
    p'.Courses now fun k => ms k ++ p.milestones now m k := by
  cases h with
  | @called worker subject limit work _ _ =>
      simp only [milestones_of_none (p := p) (m := .call worker subject limit work) rfl,
        List.append_nil]
      refine hc.append ?_ rfl
      cases hcl : p.closed <;> simp [Job.isTaken, firstStage, hcl]
  | refused _ hj hs | admitted _ _ _ hj hs =>
      exact hc.keep hj (by simp [Job.isTaken, hs]) rfl rfl rfl
  | @started i j _ hi hj hs =>
      have htaken : j.isTaken = false := by simp [Job.isTaken, hs]
      obtain ⟨hnil, hfree⟩ := (hc.job hj).of_untaken htaken
      have htaking : p.milestone? .start = some (i, .taken) := by simp [milestone?, hi]
      obtain ⟨hnew, hother⟩ := milestones_of_some now htaking
      refine hc.modify hj ?_ hother
      rw [hnil, hnew]
      exact .start hfree
  | @expired i j _ _ hj hs hlimit hdue =>
      have hstopping : p.milestone? (.expire i) = some (i, .stopped) := rfl
      obtain ⟨hnew, hother⟩ := milestones_of_some now hstopping
      refine hc.modify hj ?_ hother
      rw [hnew]
      exact (hc.job hj).expire hs hlimit hwhole hdue
  | @finished i j since late failure hj hs =>
      obtain rfl : failure = j.work.failure? := hm.honest j hj
      have hending : p.milestone? (.finish i j.work.failure?) =
          some (i, .ended (j.resultOf late j.work.failure?)) := by
        simp [milestone?, hj, Job.result?, hs]
      obtain ⟨hnew, hother⟩ := milestones_of_some now hending
      refine hc.modify hj ?_ hother
      rw [hnew]
      refine (hc.job hj).finish hs fun hnot d hd => Nat.lt_of_not_le fun hdue => ?_
      -- The pool could notice that the job is late.
      have hexpire := hm.noticed i _ rfl
      rw [canMove_expire hj (hnot ▸ hs) hd] at hexpire
      exact of_decide_eq_false hexpire hdue
  | cancelled | closed =>
      simp only [milestones_of_none (p := p) (m := .cancel) rfl,
        milestones_of_none (p := p) (m := .close) rfl, List.append_nil]
      exact ⟨hc.job, hc.none⟩

theorem pass (hc : p.Courses now ms) (hquiet : p.IsQuiet now) (hle : now ≤ later)
    (hdue : ∀ j ∈ p.jobs, ∀ t, j.due? = some t → later ≤ max now (Instant.tick t)) :
    p.Courses later ms where
  none := hc.none
  job := by
    intro k j hj
    have hmem : j ∈ p.jobs := List.mem_of_getElem? hj
    refine (hc.job hj).mono hle (hquiet.handled j hmem) fun s d hs hd => ?_
    have htick := hdue j hmem (s + d.nanos) (by simp [Job.due?, hs, hd])
    have hearly : now < s + d.nanos := hquiet.not_due hj hs hd
    exact Nat.le_trans htick
      (Nat.max_le.mpr ⟨Nat.le_trans (Nat.le_of_lt hearly) Instant.le_tick, Nat.le_refl _⟩)

end Courses

end Pool

end TaskQueue
