import TaskQueue.Proofs.Run
import TaskQueue.Proofs.TickerLoop.Step

/-!
# Histories of the ticker loop

A ticker loop among all that can happen to it. Whatever it asks for, any answer may come back.
Between two moves time passes, tickers are received, the receiver goes away, and the loop is
cancelled, in any order.
-/

namespace TaskQueue

/-- A loop with the clock and what was seen of it: its record, and the tickers that were received
from its channel. -/
structure TickerLoopHistory where
  now : Instant
  cancelled : Bool := false
  loop : TickerLoop
  record : TickerLoop.Record := {}
  received : List Ticker := []

namespace TickerLoopHistory

inductive Event where
  | move (m : TickerLoop.Move)
  | pass (nanos : Nat)
  | receive
  | detach
  | cancel

def start (period : Span) (capacity : Nat) (now : Instant) (jitter : Span) :
    Except Fault TickerLoopHistory := do
  return { now, loop := TickerLoop.start period (← Channel.ofCapacity capacity) now jitter }

def step? (e : Event) (h : TickerLoopHistory) : Option TickerLoopHistory :=
  match e with
  | .move m =>
    (h.loop.step? h.now h.cancelled m).map fun loop =>
      { h with loop, record := h.record.note h.loop m }
  | .pass nanos => some { h with now := h.now + nanos }
  | .receive =>
    h.loop.receive?.map fun (t, loop) => { h with loop, received := h.received ++ [t] }
  | .detach => some { h with loop := h.loop.detach }
  | .cancel => some { h with cancelled := true }

variable {h h' h₀ mid : TickerLoopHistory} {e : Event} {es : List Event}

theorem start_eq_ok {period capacity now jitter} (hs : start period capacity now jitter = .ok h) :
    h = { now, loop := TickerLoop.start period { capacity } now jitter } := by
  unfold start at hs
  cases hc : Channel.ofCapacity (α := Ticker) capacity with
  | error e => rw [hc] at hs; cases hs
  | ok channel =>
      cases Channel.ofCapacity_eq_ok hc
      rw [hc] at hs
      cases hs
      rfl

theorem step?_move {m} (hs : step? (.move m) h = some h') :
    ∃ loop, TickerLoop.Step h.now h.cancelled h.loop m loop ∧
      h' = { h with loop, record := h.record.note h.loop m } := by
  obtain ⟨loop, hl, rfl⟩ := Option.map_eq_some_iff.mp hs
  exact ⟨loop, TickerLoop.step?_sound hl, rfl⟩

theorem step?_receive (hs : step? .receive h = some h') :
    ∃ t channel, h.loop.channel.take? = some (t, channel) ∧
      h' = { h with loop := { h.loop with channel }, received := h.received ++ [t] } := by
  obtain ⟨⟨t, loop⟩, hr, rfl⟩ := Option.map_eq_some_iff.mp hs
  obtain ⟨channel, htake, rfl⟩ := TickerLoop.exists_of_receive? hr
  exact ⟨t, channel, htake, rfl⟩

/-- What is true of a history at any time: the record is the one of the loop, and the deliveries of
the record went through the channel. -/
structure Sound (h : TickerLoopHistory) : Prop where
  fits : h.record.Fits h.loop
  carried : h.loop.channel.Carried h.received h.record.delivered

theorem Sound.start {period capacity now jitter}
    (hs : start period capacity now jitter = .ok h₀) : h₀.Sound := by
  cases start_eq_ok hs
  exact ⟨⟨rfl, rfl, rfl⟩, .empty⟩

theorem Sound.step (hh : h.Sound) (hs : step? e h = some h') : h'.Sound := by
  obtain ⟨hfits, hcarried⟩ := hh
  cases e with
  | move m =>
      obtain ⟨loop, hl, rfl⟩ := step?_move hs
      exact ⟨hfits.step hl, hl.carried hcarried⟩
  | receive =>
      obtain ⟨t, channel, htake, rfl⟩ := step?_receive hs
      exact ⟨⟨hfits.returned, hfits.phase⟩, hcarried.take htake⟩
  | detach =>
      cases hs
      exact ⟨⟨hfits.returned, hfits.phase⟩, hcarried.detach⟩
  | pass nanos | cancel =>
      cases hs
      exact ⟨hfits, hcarried⟩

theorem Sound.run (hh : h.Sound) (hr : after? step? es h = some h') : h'.Sound :=
  after?_preserves (fun hs hh => Sound.step hh hs) hr hh

theorem calls_of_cancelled (hr : after? step? es mid = some h) (hc : mid.cancelled = true) :
    h.record.calls = mid.record.calls := by
  have hboth : h.cancelled = true ∧ h.record.calls = mid.record.calls := by
    refine after?_preserves
      (P := fun h => h.cancelled = true ∧ h.record.calls = mid.record.calls) ?_ hr ⟨hc, rfl⟩
    rintro e h h' hs ⟨hc, hcalls⟩
    cases e with
    | move m =>
        obtain ⟨loop, hl, rfl⟩ := step?_move hs
        rw [hc] at hl
        exact ⟨hc, (hl.calls h.record).trans hcalls⟩
    | receive =>
        obtain ⟨_, _, -, rfl⟩ := step?_receive hs
        exact ⟨hc, hcalls⟩
    | pass nanos | detach => cases hs; exact ⟨hc, hcalls⟩
    | cancel => cases hs; exact ⟨rfl, hcalls⟩
  exact hboth.2

end TickerLoopHistory

end TaskQueue
