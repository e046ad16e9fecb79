import TaskQueue.Proofs.Time.Clock

/-!
# The order of moments

A moment lies before another one if its date comes first, or its time of day on the same date. Days
are numbered in the order of their dates, so outside of leap seconds this is the order of the
nanoseconds that went by, and the time between two moments is what went by from one to the other.
-/

namespace TaskQueue

namespace Date

variable {a b : Date} {year : Int} {month n : Nat}

theorem daysBeforeMonth_succ (h : 1 ≤ month) :
    daysBeforeMonth year (month + 1) = daysBeforeMonth year month + daysInMonth year month := by
  cases month with
  | zero => cases h
  | succ month => rfl

theorem daysBeforeMonth_mono (hmonth : 1 ≤ month) (h : month ≤ n) :
    daysBeforeMonth year month ≤ daysBeforeMonth year n := by
  induction n, h using Nat.le_induction with
  | base => exact Nat.le_refl _
  | succ n hle ih =>
      rw [daysBeforeMonth_succ (Nat.le_trans hmonth hle)]
      exact Nat.le_trans ih (Nat.le_add_right ..)

theorem month_le (d : Date) : d.month ≤ 12 :=
  Timestamp.month_le_of_day_pos (Nat.le_trans d.day_pos d.day_le)

theorem month_pos (d : Date) : 1 ≤ d.month := by
  have hday := Nat.le_trans d.day_pos d.day_le
  rcases hmonth : d.month with _ | month
  · rw [hmonth] at hday
    cases hday
  · exact Nat.le_add_left ..

/-- The days up to a date are those before the next month at most. -/
theorem daysBefore_le (d : Date) (h : d.month < n) :
    daysBeforeMonth d.year d.month + d.day ≤ daysBeforeMonth d.year n := by
  have hday := d.day_le
  have hnext : daysBeforeMonth d.year (d.month + 1) ≤ daysBeforeMonth d.year n :=
    daysBeforeMonth_mono (Nat.le_add_left 1 d.month) h
  rw [daysBeforeMonth_succ d.month_pos] at hnext
  omega

theorem daysBeforeYear_succ (year : Int) :
    daysBeforeYear (year + 1) = daysBeforeYear year + daysBeforeMonth year 13 := by
  have hleap : isLeapYear year = true ↔ year % 4 = 0 ∧ (year % 100 ≠ 0 ∨ year % 400 = 0) := by
    simp [isLeapYear]
  simp only [daysBeforeYear, daysBeforeMonth, daysInMonth]
  cases hyear : isLeapYear year with
  | true =>
      have hday := hleap.mp hyear
      simp only [if_pos]
      omega
  | false =>
      have hday := mt hleap.mpr (Bool.eq_false_iff.mp hyear)
      simp only [Bool.false_eq_true, if_false]
      omega

theorem daysBeforeYear_mono {year' : Int} (h : year ≤ year') :
    daysBeforeYear year ≤ daysBeforeYear year' := by
  simp only [daysBeforeYear]
  omega

/-- A date that comes first, by year or by month of the same year, has the lower number. -/
theorem dayNumber_lt (h : a.year < b.year ∨ a.year = b.year ∧ a.month < b.month) :
    a.dayNumber < b.dayNumber := by
  have hday := b.day_pos
  simp only [dayNumber]
  rcases h with hyear | ⟨hyear, hmonth⟩
  · have hrest := a.daysBefore_le (n := 13) (Nat.lt_succ_of_le a.month_le)
    have hyears := daysBeforeYear_mono (Int.add_one_le_iff.mpr hyear)
    rw [daysBeforeYear_succ] at hyears
    omega
  · have hrest := a.daysBefore_le hmonth
    rw [hyear] at hrest ⊢
    omega

theorem dayNumber_injective (h : a.dayNumber = b.dayNumber) : a = b := by
  have hno {a b : Date} (h : a.dayNumber = b.dayNumber) :
      ¬ (a.year < b.year ∨ a.year = b.year ∧ a.month < b.month) :=
    fun hlt => absurd h (Int.ne_of_lt (dayNumber_lt hlt))
  have hab := hno h
  have hba := hno h.symm
  obtain ⟨year, month, day, hpos, hle⟩ := a
  obtain ⟨year', month', day', hpos', hle'⟩ := b
  simp only [not_or, not_and] at hab hba
  obtain rfl : year = year' := by omega
  obtain rfl : month = month' := by omega
  simp only [dayNumber] at h
  obtain rfl : day = day' := by omega
  rfl

end Date

namespace Timestamp

variable {a b : Timestamp}

/-- The nanoseconds that went by before a moment, leap seconds not counted. -/
def elapsed (t : Timestamp) : Int :=
  (t.date.dayNumber * secondsPerDay + t.second) * nanosPerSecond + t.nanos

theorem nanos_lt_of_inLeapSecond (h : a.inLeapSecond = false) : a.nanos < nanosPerSecond := by
  simpa [inLeapSecond] using h

theorem nanosSince_eq (ha : a.inLeapSecond = false) (hb : b.inLeapSecond = false) :
    a.nanosSince b = a.elapsed - b.elapsed := by
  simp only [nanosSince, elapsed, ha, hb, Bool.and_false, Bool.false_eq_true, if_false,
    secondsPerDay, nanosPerSecond]
  omega

/-- Outside of leap seconds the order of moments is that of the nanoseconds that went by. -/
theorem before_iff (ha : a.inLeapSecond = false) (hb : b.inLeapSecond = false) :
    a.before b = true ↔ a.elapsed < b.elapsed := by
  have hsecond := a.second_lt
  have hsecond' := b.second_lt
  have hnanos := nanos_lt_of_inLeapSecond ha
  have hnanos' := nanos_lt_of_inLeapSecond hb
  simp only [elapsed, secondsPerDay, nanosPerSecond] at *
  unfold before
  split
  · rename_i hdate
    rw [hdate]
    simp only [Bool.or_eq_true, Bool.and_eq_true, decide_eq_true_eq, beq_iff_eq]
    omega
  · have hdays : a.date.dayNumber ≠ b.date.dayNumber := mt Date.dayNumber_injective ‹_›
    rw [decide_eq_true_eq]
    omega

/-- From noon it is longer to a leap second than to the midnight after it. -/
example :
    let noon : Timestamp := ⟨.epoch, 43200, 0, by decide, by decide⟩
    let leap : Timestamp := ⟨.epoch, 86399, 1500000000, by decide, by decide⟩
    let midnight : Timestamp := ⟨Date.epoch.next, 0, 0, by decide, by decide⟩
    leap.before midnight = true ∧ midnight.nanosSince noon < leap.nanosSince noon := by
  decide

theorem nanos_spanSince (ha : a.Dated) (hb : b.Dated) :
    (a.spanSince b).nanos = (a.nanosSince b).toNat := by
  have hle := nanosSince_le ha hb
  have hbound : (a.nanosSince b).toNat < Nat.pow 2 64 * nanosPerSecond := by
    simp only [Instant.horizon, nanosPerSecond, Nat.pow_eq] at hle ⊢
    omega
  simp only [spanSince, Span.ofNanos?, dif_pos hbound, Option.getD_some]

end Timestamp

end TaskQueue
