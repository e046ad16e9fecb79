import TaskQueue.Pool.Submission
import TaskQueue.Proofs.Pool.Deadline
import TaskQueue.Proofs.Time.Order

/-!
# Expiry and deadlines

A task is submitted with the time that it has left, so of two tasks the one that expires first has
the earlier deadline, as long as it has time left at all. A limit of no length counts as no limit:
a task that has no time left at its submission is given none, and nothing but the cancellation of
all jobs tells it to stop.
-/

namespace TaskQueue

/-- What may happen at one time happens no later than what may happen at another; what has no time
never happens. -/
def NoLater {α : Type} (le : α → α → Prop) : Option α → Option α → Prop
  | _, none => True
  | none, some _ => False
  | some a, some b => le a b

instance {α : Type} {le : α → α → Prop} [DecidableRel le] (a b : Option α) :
    Decidable (NoLater le a b) :=
  match a, b with
  | _, none => .isTrue trivial
  | none, some _ => .isFalse id
  | some a, some b => inferInstanceAs (Decidable (le a b))

/-- A moment as clocks show them: of a year that can be read, and outside of leap seconds. -/
structure Timestamp.Regular (t : Timestamp) : Prop where
  dated : t.Dated
  inLeapSecond_eq : t.inLeapSecond = false

namespace Task

def Regular (t : Task) : Prop :=
  ∀ d ∈ t.diesAt, d.Regular

def DiesAfter (t : Task) (now : Timestamp) : Prop :=
  ∃ d ∈ t.diesAt, now.before d = true

def HasDied (t : Task) (now : Timestamp) : Prop :=
  ∃ d ∈ t.diesAt, now.before d = false

end Task

namespace Submission

variable {worker : String} {t t₁ t₂ : Task} {now d : Timestamp} {work work₁ work₂ : Work}

theorem limit_of_diesAt (hd : t.diesAt = some d) :
    (ofTask worker t now work).limit = (d.spanSince now).nonZero? := by
  simp [ofTask, Task.timeToLive, hd]

theorem nanos_left (hnow : now.Regular) (hd : d.Regular) :
    (d.spanSince now).nanos = (d.elapsed - now.elapsed).toNat := by
  rw [Timestamp.nanos_spanSince hd.dated hnow.dated,
    Timestamp.nanosSince_eq hd.inLeapSecond_eq hnow.inLeapSecond_eq]

/-- A task that expires after its submission is given the time that it has left. -/
theorem exists_limit (worker : String) (work : Work) (hnow : now.Regular)
    (hregular : d.Regular) (hd : t.diesAt = some d) (hlt : now.before d = true) :
    ∃ limit, (ofTask worker t now work).limit = some limit ∧
      (limit.nanos : Int) = d.elapsed - now.elapsed := by
  have hleft := nanos_left hnow hregular
  have hpos := (Timestamp.before_iff hnow.inLeapSecond_eq hregular.inLeapSecond_eq).mp hlt
  have hzero : (d.spanSince now).isZero = false := by
    rw [Span.isZero, beq_eq_false_iff_ne]
    omega
  refine ⟨d.spanSince now, ?_, by omega⟩
  rw [limit_of_diesAt hd, Span.nonZero?, hzero]
  rfl

/-- A task that expires at its submission or before is given no limit, as one that never does. -/
theorem limit_eq_none (hnow : now.Regular) (ht : t.Regular) (h : ¬ t.DiesAfter now) :
    (ofTask worker t now work).limit = none := by
  cases hd : t.diesAt with
  | none => simp [ofTask, Task.timeToLive, hd]
  | some d =>
      have hregular := ht d hd
      have hleft := nanos_left hnow hregular
      have hle : ¬ now.elapsed < d.elapsed := fun hlt =>
        h ⟨d, hd, (Timestamp.before_iff hnow.inLeapSecond_eq hregular.inLeapSecond_eq).mpr hlt⟩
      have hzero : (d.spanSince now).isZero = true := by
        rw [Span.isZero, beq_iff_eq]
        omega
      rw [limit_of_diesAt hd, Span.nonZero?, hzero]
      rfl

/-- Of two tasks the one that expires first has the earlier limit, unless it has no time left when
they are submitted and the other has. -/
theorem noLater_limit_iff (hnow : now.Regular) (h₁ : t₁.Regular) (h₂ : t₂.Regular)
    (hle : NoLater (fun a b => b.before a = false) t₁.diesAt t₂.diesAt) :
    NoLater (· ≤ ·) (ofTask worker t₁ now work₁).limit (ofTask worker t₂ now work₂).limit ↔
      ¬ (t₁.HasDied now ∧ t₂.DiesAfter now) := by
  by_cases hafter₂ : t₂.DiesAfter now
  · obtain ⟨d₂, hd₂, hlt₂⟩ := hafter₂
    obtain ⟨limit₂, hlimit₂, hnanos₂⟩ :=
      exists_limit worker work₂ hnow (h₂ d₂ hd₂) hd₂ hlt₂
    rw [hd₂] at hle
    cases hd₁ : t₁.diesAt with
    | none => rw [hd₁] at hle; exact hle.elim
    | some d₁ =>
        rw [hd₁] at hle
        cases hlt₁ : now.before d₁ with
        | true =>
            obtain ⟨limit₁, hlimit₁, hnanos₁⟩ :=
              exists_limit worker work₁ hnow (h₁ d₁ hd₁) hd₁ hlt₁
            have hdied : ¬ t₁.HasDied now := by simp [Task.HasDied, hd₁, hlt₁]
            have hearlier : ¬ d₂.elapsed < d₁.elapsed := by
              rw [← Timestamp.before_iff (h₂ d₂ hd₂).inLeapSecond_eq (h₁ d₁ hd₁).inLeapSecond_eq]
              exact Bool.eq_false_iff.mp hle
            have hlimits : limit₁.nanos ≤ limit₂.nanos := by omega
            rw [hlimit₁, hlimit₂]
            exact ⟨fun _ h => hdied h.1, fun _ => hlimits⟩
        | false =>
            have hnone : ¬ t₁.DiesAfter now := by simp [Task.DiesAfter, hd₁, hlt₁]
            rw [limit_eq_none hnow h₁ hnone, hlimit₂]
            exact ⟨False.elim, fun h => h ⟨⟨d₁, hd₁, hlt₁⟩, ⟨d₂, hd₂, hlt₂⟩⟩⟩
  · rw [limit_eq_none hnow h₂ hafter₂]
    exact ⟨fun _ h => hafter₂ h.2, fun _ => trivial⟩

/-- As long as the clock runs, the context of a task is made with the deadline that its limit leads
to. -/
theorem make?_ofTask {called : Instant} (worker : String) (work : Work) (hnow : now.Regular)
    (ht : t.Regular) (hcalled : called ≤ Instant.horizon) :
    let s := ofTask worker t now work
    Context.make? worker s.subject called s.limit =
      some ⟨worker, s.subject, s.limit.map fun span => called + span.nanos⟩ := by
  intro s
  have honClock : ∀ span ∈ s.limit, span.IsOnClock := by
    refine Span.isOnClock_of_nonZero? fun span hspan => ?_
    obtain ⟨d, hd, rfl⟩ := Option.map_eq_some_iff.mp hspan
    exact Timestamp.spanSince_isOnClock (ht d hd).dated hnow.dated
  cases hlimit : s.limit with
  | none => rfl
  | some span => simp [Context.make?, (honClock span hlimit).after? hcalled]

end Submission

theorem NoLater.later {limit₁ limit₂ : Option Span} (called : Instant)
    (h : NoLater (· ≤ ·) limit₁ limit₂) :
    NoLater (· ≤ ·) (limit₁.map fun span => called + span.nanos)
      (limit₂.map fun span => called + span.nanos) := by
  match limit₁, limit₂ with
  | _, none => trivial
  | none, some _ => exact h
  | some _, some _ => exact Nat.add_le_add_left h called

/-- When everything that is due was noticed, a running job was told to stop if all jobs were, or if
it has a limit and ran for as long. -/
theorem PoolHistory.isCancelled_iff {size : Nat} {started : Instant} {es : List Event}
    {h : PoolHistory} {i : Nat} {j : Job Work} {since : Instant} {late : Bool}
    (hrun : after? step? es (start size started) = some h) (hstuck : h.pool.ownMoves h.now = [])
    (hj : h.pool.jobs[i]? = some j) (hs : j.stage = .running since late) :
    h.pool.isCancelled j = true ↔
      h.pool.cancelled = true ∨ ∃ limit ∈ j.limit, since + limit.nanos ≤ h.now := by
  have htold := told_of_run hrun j (List.mem_of_getElem? hj)
  cases hlimit : j.limit with
  | some limit => simpa using Pool.isCancelled_iff_of_stuck hstuck htold hj hs hlimit
  | none =>
      simp only [Job.ToldInTime, hs, hlimit] at htold
      have hlate : late = false := Bool.eq_false_iff.mpr fun hlate => by
        obtain ⟨limit, hnone, -⟩ := htold.2 hlate
        cases hnone
      simp [Pool.isCancelled, htold.1, hlate]

namespace Submission

/-- Of two tasks the one that expires first has the earlier deadline, if it has not run out of time
when they are submitted. A task that expires after its submission has the deadline at which it
expires, and is told to stop as soon as it ran for the time that it had left. No time left is no
limit. -/
theorem deadlines_follow_expiry {now : Timestamp} {t₁ t₂ : Task} (hnow : now.Regular)
    (h₁ : t₁.Regular) (h₂ : t₂.Regular)
    (hle : NoLater (fun a b => b.before a = false) t₁.diesAt t₂.diesAt)
    (worker : String) (work₁ work₂ : Work) :
    let s₁ := ofTask worker t₁ now work₁
    let s₂ := ofTask worker t₂ now work₂
    (¬ t₁.HasDied now →
      NoLater (· ≤ ·) s₁.limit s₂.limit ∧
      ∀ called ≤ Instant.horizon, ∃ c₁ c₂,
        Context.make? worker s₁.subject called s₁.limit = some c₁ ∧
        Context.make? worker s₂.subject called s₂.limit = some c₂ ∧
        NoLater (· ≤ ·) c₁.deadline c₂.deadline) ∧
    (∀ d, t₁.diesAt = some d → now.before d = true →
      ∃ limit, s₁.limit = some limit ∧ (limit.nanos : Int) = d.elapsed - now.elapsed ∧
      ∀ called ≤ Instant.horizon, Context.make? worker s₁.subject called s₁.limit =
        some ⟨worker, s₁.subject, some (called + limit.nanos)⟩) ∧
    (∀ size started es h (i : Nat) j since late,
      after? PoolHistory.step? es (.start size started) = some h → h.pool.ownMoves h.now = [] →
      h.pool.jobs[i]? = some j → j.limit = s₁.limit → j.stage = .running since late →
      (h.pool.isCancelled j = true ↔
        h.pool.cancelled = true ∨ ∃ limit ∈ s₁.limit, since + limit.nanos ≤ h.now)) ∧
    (t₁.diesAt = some now → t₁.timeToLive now = some .zero) ∧
    (t₁.timeToLive now = some .zero → s₁.limit = none) := by
  intro s₁ s₂
  refine ⟨fun hdied => ?_, fun d hd hlt => ?_,
    fun size started es h i j since late hrun hstuck hj hlimit hs => ?_, fun hd => ?_,
    fun hzero => ?_⟩
  · have hlimits : NoLater (· ≤ ·) s₁.limit s₂.limit :=
      (noLater_limit_iff hnow h₁ h₂ hle).mpr fun h => hdied h.1
    exact ⟨hlimits, fun called hcalled => ⟨_, _, make?_ofTask worker work₁ hnow h₁ hcalled,
      make?_ofTask worker work₂ hnow h₂ hcalled, hlimits.later called⟩⟩
  · obtain ⟨limit, hlimit, hnanos⟩ := exists_limit worker work₁ hnow (h₁ d hd) hd hlt
    refine ⟨limit, hlimit, hnanos, fun called hcalled => ?_⟩
    rw [make?_ofTask worker work₁ hnow h₁ hcalled, hlimit]
    rfl
  · rw [← hlimit]
    exact PoolHistory.isCancelled_iff hrun hstuck hj hs
  · have hspan : now.spanSince now = Span.zero := by
      simp [Timestamp.spanSince, Timestamp.nanosSince, Span.ofNanos?, Span.zero]
    rw [Task.timeToLive, hd, Option.map_some, hspan]
  · simp [s₁, ofTask, hzero, Span.nonZero?, Span.isZero, Span.zero]

def dyingAt (second : Fin secondsPerDay) : Task :=
  { Task.blank .epoch with diesAt := some ⟨.epoch, second, 0, second.isLt, .inl (by decide)⟩ }

theorem regular_epoch : Timestamp.epoch.Regular := ⟨rfl, rfl⟩

theorem regular_dyingAt (second : Fin secondsPerDay) : (dyingAt second).Regular := by
  rintro _ ⟨⟩
  exact ⟨rfl, rfl⟩

/-- Of two tasks that are submitted at once, one that dies after an hour has an earlier deadline
than one that dies a second later. -/
theorem dyingAt_hour_has_deadline :
    NoLater (fun a b => b.before a = false) (dyingAt 3600).diesAt (dyingAt 3601).diesAt ∧
      ¬ (dyingAt 3600).HasDied .epoch ∧
      NoLater (· ≤ ·) (ofTask "w1" (dyingAt 3600) .epoch .external).limit
        (ofTask "w1" (dyingAt 3601) .epoch .external).limit ∧
      (ofTask "w1" (dyingAt 3600) .epoch .external).limit = some (.ofSecs 3600) := by
  have hle : NoLater (fun a b => b.before a = false) (dyingAt 3600).diesAt
      (dyingAt 3601).diesAt := by decide
  have hdied : ¬ (dyingAt 3600).HasDied .epoch := by
    rintro ⟨d, ⟨⟩, hbefore⟩
    exact absurd hbefore (by decide)
  have hlaw := deadlines_follow_expiry regular_epoch (regular_dyingAt 3600) (regular_dyingAt 3601)
    hle "w1" .external .external
  exact ⟨hle, hdied, (hlaw.1 hdied).1, by decide⟩

/-- It is not so that of two tasks the one that expires first has the earlier deadline: one that
dies at the moment at which it is submitted has none. -/
theorem dyingAt_submission_has_no_deadline :
    ¬ ∀ (now : Timestamp) (t₁ t₂ : Task) (work : Work), now.Regular → t₁.Regular → t₂.Regular →
      NoLater (fun a b => b.before a = false) t₁.diesAt t₂.diesAt →
      NoLater (· ≤ ·) (ofTask "w1" t₁ now work).limit (ofTask "w1" t₂ now work).limit := by
  intro hlaw
  have hlimits := hlaw .epoch (dyingAt 0) (dyingAt 3600) .external regular_epoch
    (regular_dyingAt 0) (regular_dyingAt 3600) (by decide)
  exact absurd hlimits (by decide)

end Submission

end TaskQueue
