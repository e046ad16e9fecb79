import TaskQueue.Proofs.TickerLoop.Fires

/-!
# The periods in the long run

A loop adapts its period at each fire, so its periods are what a list of fires leads to. Whatever
the fires are, a period is not longer than the first one or than the longest time between fires so
far. If a single ticker fires at every poll, what its interval is shorter than the period is halved
at each fire, until the period is the interval.
-/

namespace TaskQueue.PollPeriod

variable {period interval p since : Span} {given : Option Span} {fires : List (Option Span × Span)}
  {k n : Nat}

/-! ## Any fires -/

/-- The longest time of a list of fires. -/
def longest (fires : List (Option Span × Span)) : Nat :=
  (fires.map (·.2.nanos)).foldr max 0

theorem adjust_le :
    (adjust period given since).nanos ≤ max (max shortest.nanos period.nanos) since.nanos := by
  have hhalfway : (halfwayTo (shrink period given) since).nanos ≤ _ := halfwayTo_le
  have hshrink : (shrink period given).nanos ≤ period.nanos := shrink_le
  rw [adjust_nanos]
  omega

theorem length_adjustAll : (adjustAll period fires).length = fires.length := by
  induction fires generalizing period with
  | nil => rfl
  | cons fire fires ih => exact congrArg (· + 1) ih

theorem shortest_le_of_adjustAll (hp : (adjustAll period fires)[k]? = some p) : shortest ≤ p := by
  induction fires generalizing period k with
  | nil => cases hp
  | cons fire fires ih =>
      cases k with
      | zero =>
          cases hp
          exact shortest_le_adjust ..
      | succ k => exact ih hp

theorem le_of_adjustAll (hp : (adjustAll period fires)[k]? = some p) :
    p.nanos ≤ max (max shortest.nanos period.nanos) (longest (fires.take (k + 1))) := by
  induction fires generalizing period k with
  | nil => cases hp
  | cons fire fires ih =>
      obtain ⟨given, since⟩ := fire
      have hadjust : (adjust period given since).nanos ≤ _ := adjust_le
      have hlongest : longest (((given, since) :: fires).take (k + 1)) =
          max since.nanos (longest (fires.take k)) := rfl
      rw [hlongest]
      cases k with
      | zero =>
          cases hp
          omega
      | succ k =>
          have hle := ih hp
          omega

/-! ## A ticker that fires at every poll -/

/-- The period after a number of fires of one ticker, each of which comes when the period in force
is over. -/
def steady (interval period : Span) : Nat → Span
  | 0 => period
  | n + 1 => adjust (steady interval period n) (some interval) (steady interval period n)

/-- The fires of that ticker. -/
def steadyFires (interval period : Span) (n : Nat) : List (Option Span × Span) :=
  (List.range n).map fun k => (some interval, steady interval period k)

theorem steady_adjust (n : Nat) :
    steady interval (adjust period (some interval) period) n = steady interval period (n + 1) := by
  induction n with
  | zero => rfl
  | succ n ih =>
      rw [steady, ih]
      rfl

theorem adjustAll_steadyFires (n : Nat) :
    adjustAll period (steadyFires interval period n) =
      (List.range n).map fun k => steady interval period (k + 1) := by
  induction n generalizing period with
  | zero => rfl
  | succ n ih =>
      have ih := @ih (adjust period (some interval) period)
      simp only [steadyFires, steady_adjust] at ih
      simp only [steadyFires, List.range_succ_eq_map, List.map_cons, List.map_map, adjustAll]
      exact congrArg _ ih

/-- At a poll at which the ticker fires, half of what its interval is shorter goes. -/
theorem adjust_steady (hsecond : .ofSecs 1 ≤ interval) (hle : interval ≤ period) :
    (adjust period (some interval) period).nanos =
      interval.nanos + (period.nanos - interval.nanos) / 2 := by
  have hshrink : (shrink period (some interval)).nanos = interval.nanos := by
    rw [shrink_nanos, least, if_pos hsecond]
    exact Nat.min_eq_right hle
  have hshortest : shortest.nanos ≤ interval.nanos := Nat.le_trans (by decide) hsecond
  rw [adjust_nanos, halfwayTo_nanos, hshrink, if_pos (Span.le_iff.mp hle)]
  omega

theorem steady_nanos (hsecond : .ofSecs 1 ≤ interval) (hle : interval ≤ period) (n : Nat) :
    (steady interval period n).nanos =
      interval.nanos + (period.nanos - interval.nanos) / 2 ^ n := by
  induction n with
  | zero =>
      rw [steady, Nat.pow_zero, Nat.div_one]
      exact (Nat.add_sub_of_le hle).symm
  | succ n ih =>
      have hle : interval.nanos ≤ (steady interval period n).nanos := ih ▸ Nat.le_add_right ..
      rw [steady, adjust_steady hsecond hle, ih, Nat.add_sub_cancel_left, Nat.div_div_eq_div_mul,
        Nat.pow_succ]

/-- What is halved often enough is nothing, as there is a longest span. -/
theorem steady_eq (hsecond : .ofSecs 1 ≤ interval) (hle : interval ≤ period) (hn : 94 ≤ n) :
    steady interval period n = interval := by
  apply Span.eq_of_nanos
  have hpow : 2 ^ 94 ≤ 2 ^ n := Nat.pow_le_pow_right (by decide) hn
  have hlimit : Nat.pow 2 64 * nanosPerSecond ≤ 2 ^ 94 := by decide
  have hlt : period.nanos - interval.nanos < 2 ^ n :=
    calc period.nanos - interval.nanos
      _ ≤ period.nanos := Nat.sub_le ..
      _ < Nat.pow 2 64 * nanosPerSecond := period.lt_limit
      _ ≤ 2 ^ n := Nat.le_trans hlimit hpow
  rw [steady_nanos hsecond hle, Nat.div_eq_of_lt hlt, Nat.add_zero]

theorem steady_lt (hsecond : .ofSecs 1 ≤ interval) (hle : interval ≤ period)
    (hne : steady interval period n ≠ interval) :
    steady interval period (n + 1) < steady interval period n := by
  have hne : (steady interval period n).nanos ≠ interval.nanos := fun h => hne (Span.eq_of_nanos h)
  have hle : interval.nanos ≤ (steady interval period n).nanos :=
    steady_nanos hsecond hle n ▸ Nat.le_add_right ..
  rw [Span.lt_iff, steady, adjust_steady hsecond hle]
  omega

/-- How the periods of a ticker that fires at every poll come to its interval. -/
structure Settles (interval period : Span) : Prop where
  periods : ∀ n, adjustAll period (steadyFires interval period n) =
    (List.range n).map fun k => steady interval period (k + 1)
  halved : ∀ n, (steady interval period n).nanos =
    interval.nanos + (period.nanos - interval.nanos) / 2 ^ n
  decreases : ∀ n, steady interval period n ≠ interval →
    steady interval period (n + 1) < steady interval period n
  stays : ∀ n, 94 ≤ n → steady interval period n = interval

/-- The periods of a loop are those that its fires lead to. Whatever the fires are, each period is a
tenth of a second at least, and at most that, or the first one, or the longest time between fires so
far. And for a ticker that fires at every poll the period comes down to its interval and stays
there, if it is a second at least and not longer than the first period. -/
theorem periods_settle (period : Span) :
    (∀ {capacity now jitter h₀ es h},
      TickerLoopHistory.start period capacity now jitter = .ok h₀ →
      after? TickerLoopHistory.step? es h₀ = some h →
      (TickerLoopHistory.fires es h₀).map (·.after) =
        adjustAll period ((TickerLoopHistory.fires es h₀).map Fire.change)) ∧
    (∀ fires, (adjustAll period fires).length = fires.length ∧
      ∀ k p, (adjustAll period fires)[k]? = some p →
        .ofMillis 100 ≤ p ∧
        p.nanos ≤ max (max (Span.ofMillis 100).nanos period.nanos)
          (longest (fires.take (k + 1)))) ∧
    (∀ interval, .ofSecs 1 ≤ interval → interval ≤ period → Settles interval period) := by
  refine ⟨fun hs hr => ?_, fun fires => ⟨length_adjustAll, fun k p hp => ?_⟩,
    fun interval hsecond hle => ?_⟩
  · cases TickerLoopHistory.start_eq_ok hs
    exact TickerLoopHistory.fires_periods hr
  · exact ⟨shortest_le_of_adjustAll hp, le_of_adjustAll hp⟩
  · exact ⟨adjustAll_steadyFires, steady_nanos hsecond hle, fun _ => steady_lt hsecond hle,
      fun _ => steady_eq hsecond hle⟩

end TaskQueue.PollPeriod
