import TaskQueue.Proofs.PollPeriod.Adjust
import TaskQueue.Proofs.TickerLoop.Pace

/-!
# The period from fire to fire

A ticker loop adapts its period to a ticker when it delivers it. Then it sleeps for the new period
before it calls again, so the next fire does not come before that period is over, whatever the calls
come to and however long a ticker waits for room. From the second fire on the time since the fire
before never shortens the period; only the interval of a ticker does.
-/

namespace TaskQueue

/-- The time since an instant is exact until the clock ends. -/
theorem Instant.spanTo_nanos {i later : Instant} (h : later < limit) :
    (i.spanTo later).nanos = later - i := by
  have hlimit : limit < Nat.pow 2 64 * nanosPerSecond := by decide
  have hspan : later - i < Nat.pow 2 64 * nanosPerSecond :=
    Nat.lt_of_le_of_lt (Nat.sub_le ..) (Nat.lt_trans h hlimit)
  rw [spanTo, Span.ofNanos?, dif_pos hspan]
  rfl

/-! ## Waiting for the next delivery -/

namespace TickerLoop

variable {l l' : TickerLoop} {now due : Instant} {cancelled : Bool} {m : Move}

@[simp] theorem rest_previous : (l.rest now).previous = l.previous := by
  unfold rest
  split <;> rfl

/-- The loop delivers nothing before an instant: it sleeps until then, or the instant has come. -/
def WaitsUntil (l : TickerLoop) (now due : Instant) : Prop :=
  match l.phase with
  | .sleeping wakes => due ≤ wakes
  | .asking | .offering _ => due ≤ now
  | .ended _ | .overflowed => True

theorem WaitsUntil.rest (hdue : due ≤ now + l.period.nanos) : (l.rest now).WaitsUntil now due := by
  unfold WaitsUntil
  rcases rest_phase l now with ⟨wakes, hphase⟩ | hphase
  · simp only [hphase, wakes_of_rest hphase]
    exact hdue
  · simp only [hphase]

theorem WaitsUntil.later {now' : Instant} (h : l.WaitsUntil now due) (hnow : now ≤ now') :
    l.WaitsUntil now' due := by
  unfold WaitsUntil at h ⊢
  split at h
  · exact h
  · exact Nat.le_trans h hnow
  · exact Nat.le_trans h hnow
  · trivial
  · trivial

/-- What is not a delivery leaves the period alone, and the instant of the last delivery, and leads
to none that is too early. -/
theorem Step.keeps_waiting (h : Step now cancelled l m l') (hm : m ≠ .deliver) :
    l'.period = l.period ∧ l'.previous = l.previous ∧
      ∀ due, l.WaitsUntil now due → l'.WaitsUntil now due := by
  cases h with
  | stopped | failed | abandoned => exact ⟨rfl, rfl, fun _ _ => trivial⟩
  | woke hphase _ hle =>
      refine ⟨rfl, rfl, fun due hwaits => ?_⟩
      simp only [WaitsUntil, hphase] at hwaits ⊢
      exact Nat.le_trans hwaits hle
  | idle hphase =>
      refine ⟨rest_period, rest_previous, fun due hwaits => .rest ?_⟩
      simp only [WaitsUntil, hphase] at hwaits
      exact Nat.le_trans hwaits (Nat.le_add_right ..)
  | fired hphase =>
      refine ⟨rfl, rfl, fun due hwaits => ?_⟩
      simpa only [WaitsUntil, hphase] using hwaits
  | delivered => exact absurd rfl hm

end TickerLoop

/-! ## Fires -/

/-- A delivery of a ticker: its instant, the time since the delivery before it or since the start,
and the period before and after it. -/
structure Fire where
  instant : Instant
  ticker : Ticker
  since : Span
  before : Span
  after : Span

/-- What adapts the period. -/
def Fire.change (f : Fire) : Option Span × Span := (f.ticker.interval, f.since)

namespace Fire

variable {a b : Fire}

/-- How the loop makes a fire follow another one. -/
structure Succeeds (a b : Fire) : Prop where
  inForce : b.before = a.after
  since : b.since = a.instant.spanTo b.instant
  waited : a.instant + b.before.nanos ≤ b.instant
  shortest_le : PollPeriod.shortest ≤ b.before
  adapted : b.after = PollPeriod.adjust b.before b.ticker.interval b.since

/-- How the period evolves from a fire to the next one. -/
structure Follows (a b : Fire) : Prop where
  /-- The period in force is the one that the first fire left. -/
  inForce : b.before = a.after
  elapsed : a.instant + b.since.nanos = b.instant
  waited : b.before ≤ b.since
  /-- What the ticker allows is not shortened towards the time between the fires. -/
  shrink_le_since : PollPeriod.shrink b.before b.ticker.interval ≤ b.since
  least_le : PollPeriod.least b.before b.ticker.interval ≤ b.after.nanos
  after_le_since : b.after ≤ b.since

/-- Until the clock ends the time between two fires is exact, so the period of the second lies
between what its ticker allows and that time. -/
theorem Succeeds.follows (h : Succeeds a b) (hclock : b.instant < Instant.limit) :
    Follows a b := by
  have hsince : b.since.nanos = b.instant - a.instant := by
    rw [h.since, Instant.spanTo_nanos hclock]
  have hwaited : b.before ≤ b.since := by
    rw [Span.le_iff, hsince]
    exact Nat.le_sub_of_add_le' h.waited
  have hshrink : PollPeriod.shrink b.before b.ticker.interval ≤ b.since :=
    Nat.le_trans PollPeriod.shrink_le hwaited
  obtain ⟨hlower, hupper⟩ :=
    PollPeriod.adjust_between hshrink (Nat.le_trans h.shortest_le hwaited)
  constructor
  case inForce => exact h.inForce
  case elapsed =>
    rw [hsince]
    exact Nat.add_sub_of_le (Nat.le_trans (Nat.le_add_right ..) h.waited)
  case waited => exact hwaited
  case shrink_le_since => exact hshrink
  case least_le => rw [← PollPeriod.shrink_nanos, h.adapted]; exact hlower
  case after_le_since => rw [h.adapted]; exact hupper

end Fire

namespace TickerLoopHistory

variable {h h' h₀ : TickerLoopHistory} {e : Event} {es : List Event} {f : Fire} {t : Ticker}

/-- The delivery of a ticker that would be made now. -/
def fire (h : TickerLoopHistory) (t : Ticker) : Fire where
  instant := h.now
  ticker := t
  since := h.loop.previous.spanTo h.now
  before := h.loop.period
  after := (h.loop.adapt h.now t).period

def fired (e : Event) (h : TickerLoopHistory) : List Fire :=
  match e, h.loop.phase with
  | .move .deliver, .offering t => [h.fire t]
  | _, _ => []

/-- The deliveries of a run, in order. -/
def fires (es : List Event) (h₀ : TickerLoopHistory) : List Fire :=
  gathered step? fired es h₀

/-- An event without a delivery: it leaves the period alone, and the instant of the last delivery,
and leads to no delivery that is too early. -/
structure Keeps (h h' : TickerLoopHistory) : Prop where
  now_le : h.now ≤ h'.now
  period : h'.loop.period = h.loop.period
  previous : h'.loop.previous = h.loop.previous
  delivered : h'.record.delivered = h.record.delivered
  waits : ∀ due, h.loop.WaitsUntil h.now due → h'.loop.WaitsUntil h'.now due

/-- An event with a delivery. -/
structure Fires (h : TickerLoopHistory) (t : Ticker) (h' : TickerLoopHistory) : Prop where
  phase : h.loop.phase = .offering t
  now : h'.now = h.now
  loop : h'.loop = (h.loop.adapt h.now t).rest h.now
  delivered : h'.record.delivered = h.record.delivered ++ [t]

theorem fired_of_ne (he : e ≠ .move .deliver) : fired e h = [] := by
  unfold fired
  split
  · exact absurd rfl he
  · rfl

/-- An event makes one delivery or none. -/
theorem step?_fired (hs : step? e h = some h') :
    fired e h = [] ∧ Keeps h h' ∨ ∃ t, fired e h = [h.fire t] ∧ Fires h t h' := by
  cases e with
  | move m =>
      obtain ⟨loop, hl, rfl⟩ := step?_move hs
      by_cases hm : m = .deliver
      · subst m
        cases hl with
        | delivered hphase _ =>
            refine .inr ⟨_, by simp only [fired, hphase], hphase, rfl, rfl, ?_⟩
            simp only [TickerLoop.Record.note, hphase]
      · obtain ⟨hperiod, hprevious, hwaits⟩ := hl.keeps_waiting hm
        refine .inl ⟨fired_of_ne (by simpa using hm), Nat.le_refl _, hperiod, hprevious, ?_, hwaits⟩
        cases hl with
        | delivered => exact absurd rfl hm
        | stopped | woke | failed | idle | fired | abandoned => simp [TickerLoop.Record.note]
  | receive =>
      obtain ⟨_, _, -, rfl⟩ := step?_receive hs
      exact .inl ⟨rfl, Nat.le_refl _, rfl, rfl, rfl, fun _ => id⟩
  | pass nanos =>
      cases hs
      exact .inl ⟨rfl, Nat.le_add_right .., rfl, rfl, rfl, fun _ hwaits =>
        hwaits.later (Nat.le_add_right ..)⟩
  | detach | cancel =>
      cases hs
      exact .inl ⟨rfl, Nat.le_refl _, rfl, rfl, rfl, fun _ => id⟩

/-! ## From one fire to the next -/

/-- A loop after its last fire: it delivers nothing before the new period is over. -/
structure Rests (f : Fire) (h : TickerLoopHistory) : Prop where
  previous : h.loop.previous = f.instant
  period : h.loop.period = f.after
  shortest_le : PollPeriod.shortest ≤ f.after
  waits : h.loop.WaitsUntil h.now (f.instant + f.after.nanos)

theorem Fires.rests (hf : Fires h t h') : Rests (h.fire t) h' := by
  have hloop := hf.loop
  constructor
  case previous => rw [hloop, TickerLoop.rest_previous]; rfl
  case period => rw [hloop, TickerLoop.rest_period]; rfl
  case shortest_le => exact PollPeriod.shortest_le_adjust ..
  case waits => rw [hloop, hf.now]; exact .rest (Nat.le_refl _)

theorem Rests.keep (hf : Rests f h) (hk : Keeps h h') : Rests f h' where
  previous := hk.previous.trans hf.previous
  period := hk.period.trans hf.period
  shortest_le := hf.shortest_le
  waits := hk.waits _ hf.waits

theorem Rests.succeeds (hf : Rests f h) (hphase : h.loop.phase = .offering t) :
    f.Succeeds (h.fire t) := by
  have hperiod := hf.period
  have hwaits := hf.waits
  simp only [TickerLoop.WaitsUntil, hphase] at hwaits
  constructor
  case inForce => exact hperiod
  case since => simp only [fire, hf.previous]
  case waited => simpa only [fire, hperiod] using hwaits
  case shortest_le => simpa only [fire, hperiod] using hf.shortest_le
  case adapted => rfl

/-- What holds at the end of a run, before each event without a delivery and with a fire more before
each delivery, holds of the fires of the run. -/
theorem fires_induction {P : TickerLoopHistory → List Fire → Prop} (hend : P h' [])
    (hkeep : ∀ {h mid fs}, Keeps h mid → P mid fs → P h fs)
    (hfire : ∀ {h t mid fs}, Fires h t mid → P mid fs → P h (h.fire t :: fs)) :
    after? step? es h = some h' → P h (fires es h) := by
  induction es generalizing h with
  | nil =>
      intro hr
      cases hr
      exact hend
  | cons e es ih =>
      intro hr
      obtain ⟨mid, hs, hr⟩ := after?_cons.mp hr
      rw [fires, gathered_cons hs]
      rcases step?_fired hs with ⟨hnone, hk⟩ | ⟨t, hfired, hf⟩
      · rw [hnone]
        exact hkeep hk (ih hr)
      · rw [hfired]
        exact hfire hf (ih hr)

theorem fires_chain (hr : after? step? es h = some h') :
    (fires es h).IsChain Fire.Succeeds := by
  -- The first fire of a run follows the last one before the run, if there was one.
  refine (fires_induction (P := fun h fs => fs.IsChain Fire.Succeeds ∧
    ∀ f, Rests f h → (f :: fs).IsChain Fire.Succeeds) ⟨.nil, fun f _ => .singleton f⟩ ?_ ?_ hr).1
  · rintro h mid fs hk ⟨hchain, hnext⟩
    exact ⟨hchain, fun f hf => hnext f (hf.keep hk)⟩
  · rintro h t mid fs hfire ⟨-, hnext⟩
    have hchain := hnext _ hfire.rests
    exact ⟨hchain, fun f hf => .cons_cons (hf.succeeds hfire.phase) hchain⟩

theorem fires_delivered (hr : after? step? es h = some h') :
    h'.record.delivered = h.record.delivered ++ (fires es h).map (·.ticker) := by
  refine fires_induction (P := fun h fs =>
    h'.record.delivered = h.record.delivered ++ fs.map (·.ticker)) (by simp) ?_ ?_ hr
  · intro h mid fs hk ih
    rwa [hk.delivered] at ih
  · intro h t mid fs hfire ih
    rw [ih, hfire.delivered]
    simp [fire]

theorem instant_le_of_mem (hr : after? step? es h = some h') :
    ∀ f ∈ fires es h, f.instant ≤ h'.now := by
  refine (fires_induction (P := fun h fs => h.now ≤ h'.now ∧ ∀ f ∈ fs, f.instant ≤ h'.now)
    ⟨Nat.le_refl _, by simp⟩ ?_ ?_ hr).2
  · rintro h mid fs hk ⟨hnow, hinstants⟩
    exact ⟨Nat.le_trans hk.now_le hnow, hinstants⟩
  · rintro h t mid fs hfire ⟨hnow, hinstants⟩
    rw [hfire.now] at hnow
    exact ⟨hnow, List.forall_mem_cons.mpr ⟨hnow, hinstants⟩⟩

/-- The periods of a run are those that its fires lead to. -/
theorem fires_periods (hr : after? step? es h = some h') :
    (fires es h).map (·.after) =
      PollPeriod.adjustAll h.loop.period ((fires es h).map Fire.change) := by
  refine fires_induction (P := fun h fs =>
    fs.map (·.after) = PollPeriod.adjustAll h.loop.period (fs.map Fire.change)) rfl ?_ ?_ hr
  · intro h mid fs hk ih
    rwa [hk.period] at ih
  · intro h t mid fs hfire ih
    have hperiod : mid.loop.period = (h.fire t).after := hfire.rests.period
    exact congrArg _ (hperiod ▸ ih)

/-- The tickers of the fires are those that were delivered. The periods after them are those that
their intervals and the times since the fires before lead to. From the second fire on, until the
clock ends, the period in force is over when a ticker is delivered; so the time between the fires
does not shorten the period, and the new one lies between what the ticker allows and that time. -/
theorem periods_evolve {period capacity now jitter}
    (hs : start period capacity now jitter = .ok h₀) (hr : after? step? es h₀ = some h)
    (hclock : h.now < Instant.limit) :
    (fires es h₀).map (·.ticker) = h.record.delivered ∧
    (fires es h₀).map (·.after) =
      PollPeriod.adjustAll period ((fires es h₀).map Fire.change) ∧
    (fires es h₀).IsChain Fire.Follows := by
  cases start_eq_ok hs
  refine ⟨(fires_delivered hr).symm, fires_periods hr, ?_⟩
  refine (fires_chain hr).imp_of_mem_imp fun a b _ hb hsucceeds => hsucceeds.follows ?_
  exact Nat.lt_of_le_of_lt (instant_le_of_mem hr b hb) hclock

/-- A run with three fires. The second ticker has an interval of a second, and fires at the first
poll that can follow. The third one fires at the second poll after that, and waits for room. -/
def unevenRun : List Event :=
  let pass (millis : Nat) : Event := .pass (Instant.ofMillis millis)
  let fires (name : String) (interval : Option Span) : Event :=
    .move (.answered (.ok (some (.fresh "default" name interval))))
  [pass 100, .move .wake, fires "a" (some (.ofSecs 5)), .move .deliver, .receive,
    pass 2550, .move .wake, fires "b" (some (.ofSecs 1)), .move .deliver,
    pass 1775, .move .wake, .move (.answered (.ok none)),
    pass 1775, .move .wake, fires "c" none, pass 875, .receive, .move .deliver]

theorem unevenRun_evolves :
    ∃ h₀ h, start (.ofSecs 15) 1 0 .zero = .ok h₀ ∧ after? step? unevenRun h₀ = some h ∧
      h.now < Instant.limit ∧
      (fires unevenRun h₀).map (·.ticker) = h.record.delivered ∧
      (fires unevenRun h₀).map (·.after) = [.ofMillis 2550, .ofMillis 1775, .ofMillis 3100] ∧
      (fires unevenRun h₀).IsChain Fire.Follows := by
  let h₀ : TickerLoopHistory :=
    { now := 0, loop := TickerLoop.start (.ofSecs 15) { capacity := 1 } 0 .zero }
  have hs : start (.ofSecs 15) 1 0 .zero = .ok h₀ := rfl
  have hrun : (after? step? unevenRun h₀).any (fun h => h.now < Instant.limit) = true := by
    decide +kernel
  have hperiods : (fires unevenRun h₀).map (·.after) =
      [.ofMillis 2550, .ofMillis 1775, .ofMillis 3100] := by
    decide +kernel
  obtain ⟨h, hrun, hclock⟩ := (Option.any_eq_true _ _).mp hrun
  have hnow : h.now < Instant.limit := of_decide_eq_true hclock
  obtain ⟨htickers, -, hchain⟩ := periods_evolve hs hrun hnow
  exact ⟨h₀, h, hs, hrun, hnow, htickers, hperiods, hchain⟩

end TickerLoopHistory

end TaskQueue
