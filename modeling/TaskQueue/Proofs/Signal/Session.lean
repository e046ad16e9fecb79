import TaskQueue.Proofs.Signal.History
import TaskQueue.Signal.Session

/-!
# Watched streams as histories

A stream that is watched is pulled and goes through the events of a history. So what holds in every
history holds of the streams that are watched, and the signals that are seen of them are the items
of a history.
-/

namespace TaskQueue

namespace SignalSession

variable {h₀ : SignalHistory} {s s' : SignalSession} {earlier : List Signal} {fuel steps : Nat}
  {e : SignalEvent} {events : List SignalEvent}

/-- A session with the clock and the stream that a history leads to. The signals of the history are
some earlier ones, and those that were seen since one last looked. -/
def FollowsFrom (h₀ : SignalHistory) (earlier : List Signal) (s : SignalSession) : Prop :=
  ∃ es h, after? SignalHistory.step? es h₀ = some h ∧ h.now = s.now ∧
    h.cancelled = s.cancelled ∧ h.stream = s.stream ∧
    h.items.filterMap id = earlier ++ s.signals.map Prod.snd

namespace FollowsFrom

theorem event {f : SignalHistory.Event} (hs : s.FollowsFrom h₀ earlier)
    (hf : ∀ h : SignalHistory, h.now = s.now → h.cancelled = s.cancelled → h.stream = s.stream →
      ∃ h', SignalHistory.step? f h = some h' ∧ h'.now = s'.now ∧ h'.cancelled = s'.cancelled ∧
        h'.stream = s'.stream ∧ ∃ more, h'.items.filterMap id = h.items.filterMap id ++ more ∧
          s'.signals.map Prod.snd = s.signals.map Prod.snd ++ more) :
    s'.FollowsFrom h₀ earlier := by
  obtain ⟨es, h, hr, hnow, hcancelled, hstream, hitems⟩ := hs
  obtain ⟨h', hstep, hnow', hcancelled', hstream', more, hmore, hseen⟩ :=
    hf h hnow hcancelled hstream
  refine ⟨es ++ [f], h', after?_snoc.mpr ⟨h, hr, hstep⟩, hnow', hcancelled', hstream', ?_⟩
  rw [hmore, hitems, hseen, List.append_assoc]

theorem settleFor (hs : s.FollowsFrom h₀ earlier) : (s.settleFor fuel).FollowsFrom h₀ earlier := by
  induction fuel generalizing s with
  | zero => exact hs
  | succ fuel ih =>
      simp only [SignalSession.settleFor]
      split
      · exact hs
      · rename_i pull stream hpull
        refine ih (hs.event (f := .pull s.reachable) fun h hnow hcancelled hstream => ?_)
        rw [← hnow, ← hcancelled, ← hstream] at hpull
        refine ⟨{ h with stream, items := h.items ++ pull.item?.toList }, ?_, ?_⟩
        · simp [SignalHistory.step?, hpull]
        · cases pull <;> simp [hnow, hcancelled, Pull.item?]

theorem settle (hs : s.FollowsFrom h₀ earlier) : s.settle.FollowsFrom h₀ earlier := hs.settleFor

theorem pass (hs : s.FollowsFrom h₀ earlier) : (s.pass steps).FollowsFrom h₀ earlier := by
  induction steps generalizing s with
  | zero => exact hs
  | succ steps ih =>
      refine ih (settle ?_)
      exact hs.event (f := .pass (Instant.ofMillis stepMillis)) fun h hnow hcancelled hstream =>
        ⟨_, rfl, congrArg (· + _) hnow, hcancelled, hstream, [], by simp, by simp⟩

theorem hear (hs : s.FollowsFrom h₀ earlier) : (s.hear e).FollowsFrom h₀ earlier := by
  unfold SignalSession.hear
  split
  · generalize e.queues = queues
    induction queues generalizing s with
    | nil => exact hs
    | cons queue queues ih =>
        refine ih (s := { s with stream := s.stream.notify queue }) ?_ ‹_›
        refine hs.event (f := .notify queue) fun h hnow hcancelled hstream => ?_
        exact ⟨_, rfl, hnow, hcancelled, congrArg (·.notify queue) hstream, [], by simp, by simp⟩
  · exact hs

theorem apply (hs : s.FollowsFrom h₀ earlier) : (s.apply e).FollowsFrom h₀ earlier := by
  unfold SignalSession.apply
  refine settle ?_
  have hheard : ((s.pass (e.millis / stepMillis)).hear e).FollowsFrom h₀ earlier := hs.pass.hear
  generalize (s.pass (e.millis / stepMillis)).hear e = t at hheard
  have hdisconnected : FollowsFrom h₀ earlier
      { t with
        reachable := (e.refuse.map not).getD t.reachable
        stream := if e.disconnect then t.stream.disconnect else t.stream } := by
    cases e.disconnect with
    | false => exact hheard
    | true =>
        exact hheard.event (f := .disconnect) fun h hnow hcancelled hstream =>
          ⟨_, rfl, hnow, hcancelled, congrArg SignalStream.disconnect hstream, [], by simp, by simp⟩
  cases e.cancel with
  | false => simpa using hdisconnected
  | true =>
      exact hdisconnected.event (f := .cancel) fun h hnow _ hstream =>
        ⟨_, rfl, hnow, by simp, hstream, [], by simp, by simp⟩

theorem watch (hs : s.FollowsFrom h₀ earlier) :
    ∀ t ∈ s.watch events, ∃ earlier, t.FollowsFrom h₀ earlier := by
  induction events generalizing s earlier with
  | nil =>
      intro t ht
      obtain rfl := List.mem_singleton.mp ht
      exact ⟨earlier, hs.settle⟩
  | cons e events ih =>
      intro t ht
      rw [SignalSession.watch] at ht
      rcases List.mem_cons.mp ht with rfl | ht
      · exact ⟨earlier, hs.settle⟩
      · have hcleared : FollowsFrom h₀ (earlier ++ s.settle.signals.map Prod.snd)
            { s.settle with signals := [], log := [] } := by
          obtain ⟨es, h, hr, hnow, hcancelled, hstream, hitems⟩ := hs.settle
          exact ⟨es, h, hr, hnow, hcancelled, hstream, by simpa using hitems⟩
        exact ih hcleared.apply t ht

end FollowsFrom

end SignalSession

end TaskQueue
