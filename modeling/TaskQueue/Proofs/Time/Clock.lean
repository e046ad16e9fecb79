import TaskQueue.Proofs.Entity.Survival
import TaskQueue.Proofs.PollPeriod.Adjust
import TaskQueue.Table.Ticker
import TaskQueue.Time.Instant
import TaskQueue.Time.Interval

/-!
# Spans that the clock has room for

The clock ends, so an instant that is some span away may lie beyond it. The clock of a process does
not come past its horizon, after `2 ^ 61` seconds; from any instant before, the clock has room for
every span that the database keeps, for the time that is left until any date, for the time that went
by, and for the poll periods that are made of such spans.
-/

namespace TaskQueue

/-- No clock of a process comes past this instant. -/
def Instant.horizon : Instant := Nat.pow 2 61 * nanosPerSecond

/-- From the horizon, and from every instant before, the clock has room for the span. -/
def Span.IsOnClock (d : Span) : Prop := d.nanos + Instant.horizon < Instant.limit

instance (d : Span) : Decidable d.IsOnClock :=
  inferInstanceAs (Decidable (_ < _))

variable {d d' : Span} {now : Instant}

namespace Span

theorem IsOnClock.of_le (h : d.nanos ≤ d'.nanos) (hd : d'.IsOnClock) : d.IsOnClock :=
  Nat.lt_of_le_of_lt (Nat.add_le_add_right h _) hd

theorem isOnClock_of_le_horizon (h : d.nanos ≤ Instant.horizon) : d.IsOnClock := by
  simp only [IsOnClock, Instant.horizon, Instant.limit, nanosPerSecond, Nat.pow_eq] at *
  omega

theorem IsOnClock.lt_limit (hd : d.IsOnClock) (hnow : now ≤ Instant.horizon) :
    now + d.nanos < Instant.limit :=
  Nat.lt_of_le_of_lt (Nat.add_comm now _ ▸ Nat.add_le_add_left hnow _) hd

theorem IsOnClock.after? (hd : d.IsOnClock) (hnow : now ≤ Instant.horizon) :
    now.after? d = some (now + d.nanos) :=
  if_pos (hd.lt_limit hnow)

theorem isOnClock_of_nonZero? {time : Option Span} (h : ∀ d ∈ time, d.IsOnClock) :
    ∀ limit ∈ time.bind nonZero?, limit.IsOnClock := by
  intro limit hlimit
  obtain ⟨d, hd, hnonzero⟩ := Option.bind_eq_some_iff.mp hlimit
  unfold nonZero? at hnonzero
  split at hnonzero <;> cases hnonzero
  exact h _ hd

theorem after?_horizon (hd : ¬ d.IsOnClock) : Instant.horizon.after? d = none := by
  rw [IsOnClock, Nat.add_comm] at hd
  exact if_neg hd

end Span

theorem Instant.spanTo_isOnClock {before : Instant} (hnow : now ≤ horizon) :
    (before.spanTo now).IsOnClock := by
  refine Span.isOnClock_of_le_horizon (Nat.le_trans ?_ hnow)
  unfold spanTo Span.ofNanos?
  split
  · exact Nat.sub_le ..
  · exact Nat.zero_le _

/-! ## Spans that the database keeps -/

theorem Interval.toSpan_isOnClock (i : Interval) : i.toSpan.IsOnClock := by
  refine Span.isOnClock_of_le_horizon ?_
  have hmicros : i.totalMicros ≤ maxMicros := saturate_le _
  simp only [toSpan, maxMicros, Instant.horizon, nanosPerSecond, Nat.pow_eq] at *
  omega

/-- The clock has room for the interval of the ticker, if it has one. -/
def Ticker.IsOnClock (t : Ticker) : Prop :=
  ∀ d ∈ t.interval, d.IsOnClock

theorem Ticker.isOnClock_of_row {row : Row} {t : Ticker} (h : Ticker.ofRow row = .ok t) :
    t.IsOnClock := by
  simp only [Ticker.ofRow, bind, Except.bind] at h
  cases hinterval : row.optional "interval" Datum.interval? with
  | error e => simp [hinterval] at h
  | ok interval =>
      have ht : t.interval = interval.map Interval.toSpan := by
        simp only [hinterval] at h
        repeat' split at h <;> try contradiction
        cases h
        rfl
      intro d hd
      obtain ⟨i, -, rfl⟩ := Option.map_eq_some_iff.mp (ht ▸ hd)
      exact i.toSpan_isOnClock

/-! ## The time until a date -/

namespace Date

open Timestamp

theorem daysBeforeMonth_le (year : Int) (month : Nat) :
    daysBeforeMonth year month ≤ 31 * month := by
  induction month using daysBeforeMonth.induct with
  | case1 | case2 => simp [daysBeforeMonth]
  | case3 month _ ih =>
      have hdays := daysInMonth_le year month
      simp only [daysBeforeMonth]
      omega

/-- The days of the years that can be read are a thousand million at most. -/
theorem dayNumber_bounds {date : Date} (h : isYear date.year = true) :
    -500000000 ≤ date.dayNumber ∧ date.dayNumber ≤ 500000000 := by
  have hmonth : date.month ≤ 12 :=
    month_le_of_day_pos (Nat.le_trans date.day_pos date.day_le)
  have hday := Nat.le_trans date.day_le (daysInMonth_le ..)
  have hbefore := daysBeforeMonth_le date.year date.month
  simp only [isYear, Bool.and_eq_true, decide_eq_true_eq] at h
  simp only [dayNumber, daysBeforeYear]
  omega

end Date

theorem Timestamp.nanosSince_le {a b : Timestamp} (ha : a.Dated) (hb : b.Dated) :
    (a.nanosSince b).toNat ≤ Instant.horizon := by
  have hdate := a.date.dayNumber_bounds ha
  have hdate' := b.date.dayNumber_bounds hb
  have hsecond := a.second_lt
  have hnanos := a.nanos_lt
  simp only [nanosSince, Instant.horizon, secondsPerDay, nanosPerSecond, Nat.pow_eq] at *
  split
  · omega
  · split <;> omega

theorem Timestamp.spanSince_isOnClock {a b : Timestamp} (ha : a.Dated) (hb : b.Dated) :
    (a.spanSince b).IsOnClock := by
  refine Span.isOnClock_of_le_horizon (Nat.le_trans ?_ (nanosSince_le ha hb))
  unfold spanSince Span.ofNanos?
  split
  · exact Nat.le_refl _
  · exact Nat.zero_le _

/-! ## Poll periods -/

namespace PollPeriod

variable {period since : Span} {interval : Option Span}

/-- A period that is adapted is no longer than what it is made of. -/
theorem adjust_isOnClock (hperiod : period.IsOnClock) (hsince : since.IsOnClock) :
    (adjust period interval since).IsOnClock := by
  have hhalfway : (halfwayTo (shrink period interval) since).IsOnClock := by
    -- Half of the way is not beyond the longer of the two.
    rcases Nat.le_total (shrink period interval).nanos since.nanos with h | h
    · exact hsince.of_le (Nat.max_eq_right h ▸ halfwayTo_le)
    · exact hperiod.of_le (Nat.le_trans (Nat.max_eq_left h ▸ halfwayTo_le) shrink_le)
  unfold adjust Span.max
  split
  · decide
  · exact hhalfway

end PollPeriod

end TaskQueue
