import Mathlib.Data.Nat.Dist
import TaskQueue.PollPeriod

/-!
# One adaptation of the period

A fire brings the period down to the interval of its ticker, and moves it half of the way towards
the time since the fire before. Of an odd way the greater half is left. The operations that this
takes are those of spans, and none of them can fail. A longer period and a longer time do not lead
to a shorter period.
-/

namespace TaskQueue

/-! ## Operations that may fail -/

namespace Span

variable {a b c : Span}

theorem le_iff : a ≤ b ↔ a.nanos ≤ b.nanos := Iff.rfl

theorem lt_iff : a < b ↔ a.nanos < b.nanos := Iff.rfl

theorem eq_of_nanos (h : a.nanos = b.nanos) : a = b := by
  cases a
  cases b
  cases h
  rfl

theorem max_nanos (a b : Span) : (a.max b).nanos = Nat.max a.nanos b.nanos := by
  unfold max
  split
  · exact (Nat.max_eq_right ‹_›).symm
  · exact (Nat.max_eq_left (Nat.le_of_not_le ‹_›)).symm

/-- The sum of two spans, unless it is too long for a span. -/
def add? (a b : Span) : Option Span := ofNanos? (a.nanos + b.nanos)

/-- The difference of two spans, unless the second is longer. -/
def sub? (a b : Span) : Option Span := if b ≤ a then some (a - b) else none

theorem add?_eq_some (h : a.nanos + b.nanos = c.nanos) : a.add? b = some c := by
  have hlt := c.lt_limit
  simp only [add?, ofNanos?, h, hlt, dif_pos]

theorem sub?_eq_some (h : c.nanos + b.nanos = a.nanos) : a.sub? b = some c := by
  have hle : b.nanos ≤ a.nanos := h ▸ Nat.le_add_left ..
  rw [sub?, if_pos (le_iff.mpr hle)]
  exact congrArg some (eq_of_nanos (Nat.sub_eq_of_eq_add h.symm))

end Span

namespace PollPeriod

variable {period longer since later a a' b b' d m : Span} {interval : Option Span}

/-- A span moved half of the way towards another one, by operations that may fail. -/
def halfwayTo? (a b : Span) : Option Span :=
  if a < b then do
    let way ← b.sub? a
    a.add? way.half
  else if b < a then do
    let way ← a.sub? b
    a.sub? way.half
  else some a

/-- The period after a ticker fired, by operations that may fail. -/
def adjust? (period : Span) (interval : Option Span) (since : Span) : Option Span := do
  let halfway ← halfwayTo? (shrink period interval) since
  return halfway.max shortest

/-! ## The period that a ticker allows -/

/-- What the interval of a ticker brings a period down to: the interval, if it is a second at least
and shorter than the period, and else the period. -/
inductive Shrinks (period : Span) : Option Span → Span → Prop where
  | toInterval {i : Span} : .ofSecs 1 ≤ i → i < period → Shrinks period (some i) i
  | kept {given : Option Span} :
      (∀ i ∈ given, i < .ofSecs 1 ∨ period ≤ i) → Shrinks period given period

theorem shrinks_iff : Shrinks period interval d ↔ d = shrink period interval := by
  constructor
  · rintro (⟨hsecond, hlt⟩ | hkept)
    · exact (if_pos ⟨hsecond, hlt⟩).symm
    · cases interval with
      | none => rfl
      | some i =>
          refine (if_neg fun ⟨hsecond, hlt⟩ => ?_).symm
          rcases hkept i rfl with hshort | hlong
          · exact Nat.not_le_of_lt hshort hsecond
          · exact Nat.not_le_of_lt hlt hlong
  · rintro rfl
    unfold shrink
    split
    case h_1 i =>
      split
      · exact .toInterval (And.left ‹_›) (And.right ‹_›)
      · rename_i hno
        refine .kept fun _ hi => ?_
        cases hi
        rw [not_and_or] at hno
        exact hno.imp Nat.lt_of_not_le Nat.le_of_not_lt
    case h_2 => exact .kept (by simp)

/-- The shorter one of a period and an interval of at least a second. -/
def least (period : Span) : Option Span → Nat
  | some interval =>
    if .ofSecs 1 ≤ interval then min period.nanos interval.nanos else period.nanos
  | none => period.nanos

theorem shrink_nanos (period : Span) (interval : Option Span) :
    (shrink period interval).nanos = least period interval := by
  cases interval with
  | none => rfl
  | some i =>
      change (if Span.ofSecs 1 ≤ i ∧ i < period then i else period).nanos = _
      simp only [least, Span.le_iff, Span.lt_iff]
      split <;> split <;> omega

theorem shrink_le : (shrink period interval).nanos ≤ period.nanos := by
  rw [shrink_nanos]
  unfold least
  split
  · split
    · exact Nat.min_le_left ..
    · exact Nat.le_refl _
  · exact Nat.le_refl _

theorem shrink_mono (h : period ≤ longer) : shrink period interval ≤ shrink longer interval := by
  rw [Span.le_iff, shrink_nanos, shrink_nanos]
  cases interval with
  | none => exact h
  | some i =>
      rw [Span.le_iff] at h
      simp only [least]
      split <;> omega

/-! ## Half of the way -/

/-- The span lies between two others, and what is left of the way from the first to the second is
half of it, rounded up. -/
structure IsHalfway (a b m : Span) : Prop where
  between : a ≤ m ∧ m ≤ b ∨ b ≤ m ∧ m ≤ a
  left : m.nanos.dist b.nanos = (a.nanos.dist b.nanos + 1) / 2

theorem halfwayTo_nanos (a b : Span) :
    (halfwayTo a b).nanos =
      if a.nanos ≤ b.nanos then a.nanos + (b.nanos - a.nanos) / 2
      else a.nanos - (a.nanos - b.nanos) / 2 := by
  simp only [halfwayTo, Span.le_iff]
  split <;> rfl

theorem halfwayTo_le : (halfwayTo a b).nanos ≤ max a.nanos b.nanos := by
  rw [halfwayTo_nanos]
  split <;> omega

theorem isHalfway_halfwayTo (a b : Span) : IsHalfway a b (halfwayTo a b) := by
  have hnanos := halfwayTo_nanos a b
  constructor
  case between =>
    simp only [Span.le_iff]
    split at hnanos <;> omega
  case left =>
    simp only [Nat.dist]
    split at hnanos <;> omega

theorem isHalfway_iff : IsHalfway a b m ↔ m = halfwayTo a b := by
  constructor
  · rintro ⟨hbetween, hleft⟩
    have hnanos := halfwayTo_nanos a b
    apply Span.eq_of_nanos
    simp only [Span.le_iff] at hbetween
    simp only [Nat.dist] at hleft
    split at hnanos <;> omega
  · rintro rfl
    exact isHalfway_halfwayTo a b

theorem halfwayTo_mono (ha : a ≤ a') (hb : b ≤ b') : halfwayTo a b ≤ halfwayTo a' b' := by
  simp only [Span.le_iff, halfwayTo_nanos] at *
  split <;> split <;> omega

/-- The way is taken from the longer of the two spans, and half of it fits between them. -/
theorem halfwayTo?_eq (a b : Span) : halfwayTo? a b = some (halfwayTo a b) := by
  have hnanos := halfwayTo_nanos a b
  have hway (x y : Span) : (x - y).half.nanos = (x.nanos - y.nanos) / 2 := rfl
  unfold halfwayTo?
  simp only [Span.lt_iff]
  split
  case isTrue hlt =>
    have hsub : b.sub? a = some (b - a) := Span.sub?_eq_some (Nat.sub_add_cancel (Nat.le_of_lt hlt))
    rw [hsub]
    apply Span.add?_eq_some
    rw [hnanos, hway, if_pos (Nat.le_of_lt hlt)]
  case isFalse hge =>
    split
    case isTrue hlt =>
      have hsub : a.sub? b = some (a - b) :=
        Span.sub?_eq_some (Nat.sub_add_cancel (Nat.le_of_lt hlt))
      rw [hsub]
      apply Span.sub?_eq_some
      rw [hnanos, hway, if_neg (Nat.not_le_of_lt hlt)]
      omega
    case isFalse hle =>
      refine congrArg some (Span.eq_of_nanos ?_)
      rw [hnanos]
      split <;> omega

/-! ## The adaptation -/

theorem adjust_nanos (period : Span) (interval : Option Span) (since : Span) :
    (adjust period interval since).nanos =
      max (halfwayTo (shrink period interval) since).nanos shortest.nanos :=
  Span.max_nanos _ _

/-- A period that is not beyond the time since the fire before is not adapted beyond it. -/
theorem adjust_between (hsince : shrink period interval ≤ since) (hshortest : shortest ≤ since) :
    shrink period interval ≤ adjust period interval since ∧
      adjust period interval since ≤ since := by
  obtain ⟨hbetween, -⟩ := isHalfway_halfwayTo (shrink period interval) since
  simp only [Span.le_iff, adjust_nanos] at *
  omega

theorem adjust_mono (hperiod : period ≤ longer) (hsince : since ≤ later) :
    adjust period interval since ≤ adjust longer interval later := by
  have hshrink : shrink period interval ≤ shrink longer interval := shrink_mono hperiod
  have hhalfway := halfwayTo_mono hshrink hsince
  simp only [Span.le_iff, adjust_nanos] at hhalfway ⊢
  omega

theorem adjust?_eq (period : Span) (interval : Option Span) (since : Span) :
    adjust? period interval since = some (adjust period interval since) := by
  simp only [adjust?, halfwayTo?_eq]
  rfl

/-- The adapted period is the one that the rules for its two parts determine. -/
theorem eq_adjust_iff {next : Span} :
    next = adjust period interval since ↔
      ∃ d m, Shrinks period interval d ∧ IsHalfway d since m ∧ next = m.max (.ofMillis 100) := by
  constructor
  · rintro rfl
    exact ⟨_, _, shrinks_iff.mpr rfl, isHalfway_halfwayTo _ _, rfl⟩
  · rintro ⟨d, m, hshrinks, hhalfway, rfl⟩
    obtain rfl := shrinks_iff.mp hshrinks
    obtain rfl := isHalfway_iff.mp hhalfway
    rfl

/-- No operation of an adaptation fails. It comes to the period that the ticker allows, moved so
that half of the way to the time since the fire before is left, but to a tenth of a second at least.
It does not go down when the period or that time goes up. -/
theorem adjust_exact (period : Span) (interval : Option Span) (since : Span) :
    adjust? period interval since = some (adjust period interval since) ∧
    (∀ next, next = adjust period interval since ↔
      ∃ d m, Shrinks period interval d ∧ IsHalfway d since m ∧ next = m.max (.ofMillis 100)) ∧
    (∀ longer, period ≤ longer →
      adjust period interval since ≤ adjust longer interval since) ∧
    (∀ later, since ≤ later →
      adjust period interval since ≤ adjust period interval later) :=
  ⟨adjust?_eq period interval since, fun _ => eq_adjust_iff,
    fun _ hperiod => adjust_mono hperiod (Nat.le_refl _),
    fun _ hsince => adjust_mono (Nat.le_refl _) hsince⟩

end PollPeriod

end TaskQueue
