import TaskQueue.Time.Interval

/-!
# Intervals that saturate

The microseconds of an interval are added up in two operations, and each of them saturates. The sum
is the exact one brought into range, unless the days alone are beyond the range and the microseconds
take some of them back: then the sum lacks what was cut off the days. A longer interval does not
read as a shorter span for that.
-/

namespace TaskQueue.Interval

variable {i j : Interval} {m n : Int}

/-! ## Exact sums -/

/-- The days of an interval, those of its months among them. -/
def allDays (i : Interval) : Int := i.months.toInt * daysPerMonth + i.days.toInt

def dayMicros (i : Interval) : Int := i.allDays * microsPerDay

/-- The microseconds of an interval, added up without a limit. -/
def exactMicros (i : Interval) : Int := i.dayMicros + i.microseconds.toInt

/-- Microseconds brought into the range that the spans of the database have. -/
def clamp (n : Int) : Int := max 0 (min n maxMicros)

/-- The number fits 64 bits with a sign. -/
def InRange (n : Int) : Prop := -maxMicros - 1 ≤ n ∧ n ≤ maxMicros

/-- The days alone are beyond the range, and the microseconds take some of them back. -/
def Overshoots (i : Interval) : Prop := maxMicros < i.dayMicros ∧ i.microseconds.toInt < 0

instance (i : Interval) : Decidable i.Overshoots :=
  inferInstanceAs (Decidable (_ ∧ _))

theorem inRange_microseconds (i : Interval) : InRange i.microseconds.toInt := by
  have hle := i.microseconds.le_toInt
  have hlt := i.microseconds.toInt_lt
  simp only [InRange, maxMicros]
  omega

/-- The days are added up without an overflow. -/
theorem inRange_allDays (i : Interval) :
    InRange (i.months.toInt * daysPerMonth) ∧ InRange i.allDays := by
  have hmonths := And.intro i.months.le_toInt i.months.toInt_lt
  have hdays := And.intro i.days.le_toInt i.days.toInt_lt
  simp only [InRange, allDays, daysPerMonth, maxMicros]
  omega

/-- No number of days is just one microsecond beyond the range. -/
theorem dayMicros_ne (i : Interval) : i.dayMicros ≠ maxMicros + 1 := by
  simp only [dayMicros, microsPerDay, maxMicros]
  omega

/-! ## Saturated sums -/

theorem saturate_of_inRange (h : InRange n) : saturate n = n := by
  simp only [saturate, InRange, maxMicros] at *
  omega

theorem saturate_of_gt (h : maxMicros < n) : saturate n = maxMicros := by
  simp only [saturate, maxMicros] at *
  omega

theorem saturate_mono (h : m ≤ n) : saturate m ≤ saturate n := by
  simp only [saturate, maxMicros]
  omega

theorem totalMicros_eq (i : Interval) :
    i.totalMicros = saturate (saturate i.dayMicros + i.microseconds.toInt) := rfl

theorem toSpan_nanos (i : Interval) : i.toSpan.nanos = i.totalMicros.toNat * 1000 := rfl

theorem totalMicros_of_overshoots (h : i.Overshoots) :
    i.totalMicros = maxMicros + i.microseconds.toInt := by
  obtain ⟨hbeyond, hneg⟩ := h
  have hmicros := i.inRange_microseconds
  rw [totalMicros_eq, saturate_of_gt hbeyond]
  apply saturate_of_inRange
  simp only [InRange, maxMicros] at *
  omega

/-- What was cut off the days is missing. -/
theorem toNat_totalMicros_lt (h : i.Overshoots) :
    i.totalMicros.toNat < (clamp i.exactMicros).toNat := by
  rw [totalMicros_of_overshoots h]
  have hne := i.dayMicros_ne
  have hmicros := i.inRange_microseconds
  obtain ⟨hbeyond, hneg⟩ := h
  simp only [clamp, exactMicros, InRange, maxMicros] at *
  omega

theorem toNat_totalMicros (h : ¬ i.Overshoots) :
    i.totalMicros.toNat = (clamp i.exactMicros).toNat := by
  have hmicros := i.inRange_microseconds
  rw [totalMicros_eq]
  simp only [Overshoots, clamp, exactMicros, saturate, InRange, maxMicros] at *
  omega

theorem totalMicros_mono (hmonths : i.months ≤ j.months) (hdays : i.days ≤ j.days)
    (hmicros : i.microseconds ≤ j.microseconds) : i.totalMicros ≤ j.totalMicros := by
  rw [Int32.le_iff_toInt_le] at hmonths hdays
  rw [Int64.le_iff_toInt_le] at hmicros
  have hday : i.dayMicros ≤ j.dayMicros := by
    simp only [dayMicros, allDays, daysPerMonth, microsPerDay]
    omega
  exact saturate_mono (Int.add_le_add (saturate_mono hday) hmicros)

/-! ## Spans -/

theorem toSpan_eq_clamp_iff (i : Interval) :
    i.toSpan.nanos = (clamp i.exactMicros).toNat * 1000 ↔ ¬ i.Overshoots := by
  rw [toSpan_nanos]
  constructor
  · intro heq hover
    have hlt := toNat_totalMicros_lt hover
    omega
  · intro hover
    rw [toNat_totalMicros hover]

/-- An interval reads as the empty span if it is not positive, and if it takes back more than fits
the range. -/
theorem toSpan_isZero_iff (i : Interval) :
    i.toSpan.isZero = true ↔
      i.exactMicros ≤ 0 ∨ i.Overshoots ∧ i.microseconds.toInt ≤ -maxMicros := by
  have hzero : i.toSpan.isZero = true ↔ i.totalMicros.toNat = 0 := by
    simp only [Span.isZero, beq_iff_eq, toSpan_nanos]
    omega
  rw [hzero]
  by_cases hover : i.Overshoots
  · have hlt := toNat_totalMicros_lt hover
    rw [totalMicros_of_overshoots hover] at hlt ⊢
    simp only [hover, true_and, clamp, maxMicros] at hlt ⊢
    omega
  · rw [toNat_totalMicros hover]
    simp only [hover, false_and, or_false, clamp, maxMicros]
    omega

theorem toSpan_le (i : Interval) : i.toSpan.nanos ≤ maxMicros.toNat * 1000 := by
  have hle : i.totalMicros ≤ maxMicros := saturate_le _
  rw [toSpan_nanos]
  omega

theorem toSpan_mono (hmonths : i.months ≤ j.months) (hdays : i.days ≤ j.days)
    (hmicros : i.microseconds ≤ j.microseconds) : i.toSpan ≤ j.toSpan := by
  have hle := totalMicros_mono hmonths hdays hmicros
  change i.toSpan.nanos ≤ j.toSpan.nanos
  rw [toSpan_nanos, toSpan_nanos]
  omega

/-- An interval reads as its exact microseconds, brought into range, if and only if it does not
overshoot. If it does, it lacks what was cut off its days, and may read as the empty span although
it is positive. Its days do not overflow, and a longer interval reads as a longer span, or as the
same. -/
theorem toSpan_saturates (i : Interval) :
    (i.toSpan.nanos = (clamp i.exactMicros).toNat * 1000 ↔ ¬ i.Overshoots) ∧
    (i.Overshoots → i.toSpan.nanos = (maxMicros + i.microseconds.toInt).toNat * 1000) ∧
    (i.toSpan.isZero = true ↔
      i.exactMicros ≤ 0 ∨ i.Overshoots ∧ i.microseconds.toInt ≤ -maxMicros) ∧
    (∀ j : Interval, i.months ≤ j.months → i.days ≤ j.days → i.microseconds ≤ j.microseconds →
      i.toSpan ≤ j.toSpan) ∧
    InRange (i.months.toInt * daysPerMonth) ∧ InRange i.allDays ∧
    i.toSpan.nanos ≤ maxMicros.toNat * 1000 := by
  refine ⟨i.toSpan_eq_clamp_iff, fun hover => ?_, i.toSpan_isZero_iff,
    fun j => toSpan_mono, i.inRange_allDays.1, i.inRange_allDays.2, i.toSpan_le⟩
  rw [toSpan_nanos, totalMicros_of_overshoots hover]

/-- An interval of almost twenty hours, with its days beyond the range and its microseconds below
zero, reads as the empty span. -/
theorem longDays_read_as_empty :
    let i : Interval := ⟨0, 106751992, -9223372036854775807⟩
    i.Overshoots ∧ i.exactMicros = 71945224193 ∧ i.toSpan = .zero ∧
      i.toSpan.nanos ≠ (clamp i.exactMicros).toNat * 1000 := by
  decide

end TaskQueue.Interval
