import TaskQueue.Manager.Queues

/-!
# Spans that fit the database

A span that was read from an interval is a whole number of microseconds that fits 63 bits, so it
can be written again and reads back as itself. The time to live of a queue that was read from a row
is such a span, and so is the usual interval of a cleanup ticker.
-/

namespace TaskQueue

namespace Interval

/-- The span is written as an interval from which it reads back. -/
def Fits (d : Span) : Prop := ∃ i, ofSpan? d = some i ∧ i.toSpan = d

theorem toSpan_ofNat_micros {n : Nat} (h : n < Nat.pow 2 63) :
    (toSpan ⟨0, 0, Int64.ofNat n⟩).nanos = n * 1000 := by
  have hmicros : (Int64.ofNat n).toInt = n := Int64.toInt_ofNat_of_lt h
  have htotal : totalMicros ⟨0, 0, Int64.ofNat n⟩ = n := by
    simp only [Nat.pow_eq] at h
    simp only [totalMicros, hmicros, saturate, maxMicros, Int32.toInt_zero]
    omega
  simp only [toSpan, htotal, Int.toNat_natCast]

theorem fits_of_micros {d : Span} {n : Nat} (hd : d.nanos = n * 1000) (h : n < Nat.pow 2 63) :
    Fits d := by
  have hmicros : d.micros = n := by simp [Span.micros, hd]
  refine ⟨⟨0, 0, Int64.ofNat n⟩, by simp only [ofSpan?, hmicros, h, if_true], ?_⟩
  have hnanos := (toSpan_ofNat_micros h).trans hd.symm
  cases d
  simpa only [toSpan, Span.mk.injEq] using hnanos

theorem fits_toSpan (i : Interval) : Fits i.toSpan := by
  refine fits_of_micros rfl ?_
  have : i.totalMicros ≤ maxMicros := saturate_le _
  simp only [maxMicros, Nat.pow_eq] at *
  omega

theorem fits_defaultCleanupInterval : Fits Manager.defaultCleanupInterval :=
  ⟨⟨0, 0, 3600000000⟩, by decide, by decide⟩

end Interval

/-- A queue that was read from a row has a time to live that can be written again. -/
theorem Queue.ofRow_fits {row : Row} {q : Queue} (h : Queue.ofRow row = .ok q) :
    Interval.Fits (q.ttl.getD Manager.defaultCleanupInterval) := by
  simp only [Queue.ofRow, bind, Except.bind] at h
  cases httl : row.optional "ttl" Datum.interval? with
  | error e => simp [httl] at h
  | ok ttl =>
      have hq : q.ttl = ttl.map Interval.toSpan := by
        simp only [httl] at h
        repeat' split at h <;> try contradiction
        cases h
        rfl
      rw [hq]
      cases ttl with
      | none => exact Interval.fits_defaultCleanupInterval
      | some i => exact Interval.fits_toSpan i

/-- What reads back is written by a patch of the interval. -/
theorem Manager.patchInterval_of_fits {d : Span} (h : Interval.Fits d) :
    ∃ i, Manager.patchInterval (some d) = pure (some i) ∧ i.toSpan = d := by
  obtain ⟨i, hi, hspan⟩ := h
  refine ⟨i, ?_, hspan⟩
  simp only [patchInterval, Option.mapM_some, OperationError.interval, hi]
  rfl

end TaskQueue
