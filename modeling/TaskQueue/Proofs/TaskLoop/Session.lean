import TaskQueue.Proofs.TaskLoop.History
import TaskQueue.TaskLoop.Session

/-!
# Watched loops as histories

All that happens to a loop that is watched happens in a history as well: against a scripted server
its turns are those in which it hears the replies of the script. So what holds in every history
holds of the loops that are watched.
-/

namespace TaskQueue

namespace TaskLoopSession

variable {h₀ : TaskLoopHistory} {s s' : TaskLoopSession}

/-- A session with the clock and the loop that a history leads to. -/
def FollowsFrom (h₀ : TaskLoopHistory) (s : TaskLoopSession) : Prop :=
  ∃ es h, after? (TaskLoopHistory.step? s.manager) es h₀ = some h ∧ h.now = s.now ∧
    h.cancelled = s.cancelled ∧ h.loop = s.loop

namespace FollowsFrom

/-- A session goes on from a history by an event of the history. -/
theorem event {e : TaskLoopHistory.Event} (hs : s.FollowsFrom h₀)
    (hmanager : s'.manager = s.manager)
    (he : ∀ h : TaskLoopHistory, h.now = s.now → h.cancelled = s.cancelled → h.loop = s.loop →
      ∃ h', TaskLoopHistory.step? s.manager e h = some h' ∧ h'.now = s'.now ∧
        h'.cancelled = s'.cancelled ∧ h'.loop = s'.loop) : s'.FollowsFrom h₀ := by
  obtain ⟨es, h, hr, hnow, hcancelled, hloop⟩ := hs
  obtain ⟨h', hstep, hsame⟩ := he h hnow hcancelled hloop
  rw [← hmanager] at hr hstep
  exact ⟨es ++ [e], h', after?_snoc.mpr ⟨h, hr, hstep⟩, hsame⟩

theorem step? (hs : s.FollowsFrom h₀) (ht : s.step? = some s') : s'.FollowsFrom h₀ := by
  obtain ⟨turn, hturn, ht⟩ := Option.bind_eq_some_iff.mp ht
  obtain ⟨loop, hloop, ht⟩ := Option.bind_eq_some_iff.mp ht
  cases ht
  obtain ⟨replies, hhear⟩ := Dialogue.exists_hear_run s.script.server turn s.replies
  refine hs.event (e := .turn replies) rfl fun h hnow hcancelled hl => ?_
  have htake : h.loop.take? s.manager h.now h.cancelled replies .connectionCrashed =
      some ((turn.run s.script.server s.replies).log,
        (turn.run s.script.server s.replies).result) := by
    simp [TaskLoop.take?, hnow, hcancelled, hl, hturn, hhear]
  rw [← hnow, ← hcancelled, ← hl] at hloop
  simp only [TaskLoopHistory.step?, htake, Option.bind_some, TaskLoopHistory.move?, hloop,
    Option.map_some]
  exact ⟨_, rfl, hnow, hcancelled, rfl⟩

theorem settleFor {fuel} (hs : s.FollowsFrom h₀) : (s.settleFor fuel).FollowsFrom h₀ := by
  induction fuel generalizing s with
  | zero => exact hs
  | succ fuel ih =>
      simp only [TaskLoopSession.settleFor]
      split
      · exact ih (hs.step? ‹_›)
      · exact hs

theorem settle (hs : s.FollowsFrom h₀) : s.settle.FollowsFrom h₀ := hs.settleFor

theorem pass {steps} (hs : s.FollowsFrom h₀) : (s.pass steps).FollowsFrom h₀ := by
  induction steps generalizing s with
  | zero => exact hs
  | succ steps ih =>
      refine ih (FollowsFrom.settle ?_)
      exact hs.event (e := .pass (Instant.ofMillis stepMillis)) rfl fun h hnow hcancelled hl =>
        ⟨_, rfl, congrArg (· + _) hnow, hcancelled, hl⟩

theorem receive {count} (hs : s.FollowsFrom h₀) : (s.receive count).FollowsFrom h₀ := by
  induction count generalizing s with
  | zero => exact hs
  | succ count ih =>
      simp only [TaskLoopSession.receive]
      split
      · rename_i t loop ht
        refine ih (hs.settle.event (e := .receive) rfl fun h hnow hcancelled hl => ?_)
        rw [← hl] at ht
        refine ⟨{ h with loop, received := h.received ++ [t] }, ?_, hnow, hcancelled, rfl⟩
        simp [TaskLoopHistory.step?, ht]
      · exact hs.settle

theorem hear {e} (hs : s.FollowsFrom h₀) : (s.hear e).FollowsFrom h₀ := by
  unfold TaskLoopSession.hear
  split
  · rename_i queue _
    split
    · exact hs.event (e := .notify queue) rfl fun h hnow hcancelled hl =>
        ⟨_, rfl, hnow, hcancelled, congrArg (·.notify queue) hl⟩
    · exact hs
  · exact hs

theorem apply {e} (hs : s.FollowsFrom h₀) : (s.apply e).FollowsFrom h₀ := by
  have hpassed : FollowsFrom h₀ (s.pass (e.millis / stepMillis)) := hs.pass
  have hmoved : FollowsFrom h₀ (((s.pass (e.millis / stepMillis)).hear e).receive e.receive) :=
    hpassed.hear.receive
  unfold TaskLoopSession.apply
  refine settle ?_
  generalize ((s.pass (e.millis / stepMillis)).hear e).receive e.receive = t at hmoved
  have hdetached :
      FollowsFrom h₀ { t with loop := if e.detach then t.loop.detach else t.loop } := by
    cases e.detach with
    | false => exact hmoved
    | true =>
        exact hmoved.event (e := .detach) rfl fun h hnow hcancelled hl =>
          ⟨_, rfl, hnow, hcancelled, congrArg TaskLoop.detach hl⟩
  cases hc : e.cancel with
  | false => simpa using hdetached
  | true =>
      exact hdetached.event (e := .cancel) rfl fun h hnow _ hl => ⟨_, rfl, hnow, by simp, hl⟩

theorem watch {events} (hs : s.FollowsFrom h₀) : ∀ t ∈ s.watch events, t.FollowsFrom h₀ := by
  induction events generalizing s with
  | nil => simpa [TaskLoopSession.watch] using hs.settle
  | cons e events ih =>
      intro t ht
      rw [TaskLoopSession.watch] at ht
      rcases List.mem_cons.mp ht with rfl | ht
      · exact hs.settle
      · have hcleared : FollowsFrom h₀ { s.settle with received := [], log := [] } := hs.settle
        exact ih hcleared.apply t ht

end FollowsFrom

end TaskLoopSession

end TaskQueue
