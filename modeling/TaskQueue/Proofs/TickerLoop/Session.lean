import TaskQueue.Proofs.TickerLoop.History
import TaskQueue.TickerLoop.Session

/-!
# Scripted loops as histories

A loop that is run against a scripted server makes moves of a history, with the answers that it gets
from the server. So what holds in every history holds of the loops that are run.
-/

namespace TaskQueue

namespace TickerLoopSession

variable {h₀ : TickerLoopHistory} {s s' : TickerLoopSession} {stop : Option (Nat × LoopStop)}
  {fuel : Nat}

/-- A session with the clock, the loop and the tickers received that a history leads to. -/
def FollowsFrom (h₀ : TickerLoopHistory) (s : TickerLoopSession) : Prop :=
  ∃ es h, after? TickerLoopHistory.step? es h₀ = some h ∧ h.now = s.now ∧
    h.cancelled = s.cancelled ∧ h.loop = s.loop ∧ h.received = s.received

namespace FollowsFrom

theorem event {e : TickerLoopHistory.Event} (hs : s.FollowsFrom h₀)
    (he : ∀ h : TickerLoopHistory, h.now = s.now → h.cancelled = s.cancelled →
      h.loop = s.loop → h.received = s.received →
      ∃ h', TickerLoopHistory.step? e h = some h' ∧ h'.now = s'.now ∧
        h'.cancelled = s'.cancelled ∧ h'.loop = s'.loop ∧ h'.received = s'.received) :
    s'.FollowsFrom h₀ := by
  obtain ⟨es, h, hr, hnow, hcancelled, hloop, hreceived⟩ := hs
  obtain ⟨h', hstep, hsame⟩ := he h hnow hcancelled hloop hreceived
  exact ⟨es ++ [e], h', after?_snoc.mpr ⟨h, hr, hstep⟩, hsame⟩

theorem drain (hs : s.FollowsFrom h₀) : s.drain.FollowsFrom h₀ := by
  unfold TickerLoopSession.drain
  generalize hitems : s.loop.channel.items = items
  induction items generalizing s with
  | nil =>
      have hloop : { s.loop with channel := { s.loop.channel with items := [] } } = s.loop := by
        rw [← hitems]
      rw [hloop, List.append_nil]
      exact hs
  | cons t items ih =>
      let channel := { s.loop.channel with items }
      have hreceived : FollowsFrom h₀
          { s with received := s.received ++ [t], loop := { s.loop with channel } } := by
        refine hs.event (e := .receive) fun h hnow hcancelled hl hreceived => ?_
        have htake : h.loop.channel.take? = some (t, channel) := by
          simp [hl, Channel.take?, hitems, channel]
        refine ⟨{ h with loop := { h.loop with channel }, received := h.received ++ [t] }, ?_,
          hnow, hcancelled, by simp [hl], congrArg (· ++ [t]) hreceived⟩
        simp [TickerLoopHistory.step?, TickerLoop.receive?, htake]
      simpa [channel] using ih hreceived rfl

theorem step? (hs : s.FollowsFrom h₀) (ht : s.step? = some s') : s'.FollowsFrom h₀ := by
  obtain ⟨turn, -, ht⟩ := Option.bind_eq_some_iff.mp ht
  obtain ⟨loop, hloop, ht⟩ := Option.bind_eq_some_iff.mp ht
  let t := turn.run s.script.server s.replies
  have hmoved : FollowsFrom h₀
      { s with loop, replies := t.server, log := s.log ++ t.log } := by
    refine hs.event (e := .move t.result) fun h hnow hcancelled hl hreceived => ?_
    rw [← hnow, ← hcancelled, ← hl] at hloop
    refine ⟨{ h with loop, record := h.record.note h.loop t.result }, ?_, hnow, hcancelled, rfl,
      hreceived⟩
    simp [TickerLoopHistory.step?, hloop, t]
  cases ht
  split
  · exact hmoved.drain
  · exact hmoved

theorem settleFor (hs : s.FollowsFrom h₀) : (s.settleFor fuel).FollowsFrom h₀ := by
  induction fuel generalizing s with
  | zero => exact hs
  | succ fuel ih =>
      simp only [TickerLoopSession.settleFor]
      split
      · exact ih (hs.step? ‹_›)
      · exact hs

theorem settle (hs : s.FollowsFrom h₀) : s.settle.FollowsFrom h₀ := hs.settleFor

theorem stopAfter (hs : s.FollowsFrom h₀) : (s.stopAfter stop).FollowsFrom h₀ := by
  unfold TickerLoopSession.stopAfter
  split
  · rename_i polls how
    split
    · cases how with
      | cancel =>
          exact hs.event (e := .cancel) fun h hnow _ hl hreceived =>
            ⟨_, rfl, hnow, rfl, hl, hreceived⟩
      | detach =>
          exact hs.event (e := .detach) fun h hnow hcancelled hl hreceived =>
            ⟨_, rfl, hnow, hcancelled, congrArg TickerLoop.detach hl, hreceived⟩
    · exact hs
  · exact hs

theorem tick? (hs : s.FollowsFrom h₀) (ht : s.tick? = some s') : s'.FollowsFrom h₀ := by
  unfold TickerLoopSession.tick? at ht
  split at ht <;> cases ht
  exact hs.event (e := .pass _) fun h hnow hcancelled hl hreceived =>
    ⟨_, rfl, congrArg (· + _) hnow, hcancelled, hl, hreceived⟩

theorem runFor (hs : s.FollowsFrom h₀) : (s.runFor stop fuel).FollowsFrom h₀ := by
  induction fuel generalizing s with
  | zero => exact hs
  | succ fuel ih =>
      have hsettled : (s.settle.stopAfter stop).settle.FollowsFrom h₀ :=
        hs.settle.stopAfter.settle
      simp only [TickerLoopSession.runFor]
      split
      · exact ih (hsettled.tick? ‹_›)
      · exact hsettled.drain

end FollowsFrom

end TickerLoopSession

end TaskQueue
