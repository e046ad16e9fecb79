import Mathlib.Data.Option.Basic
import TaskQueue.Proofs.Pool.Turnout

/-!
# Isolation

How one job turns out is no matter to the others: of two sessions in which one job turns out in
different ways, both come to an end or neither does, and then all the rest is the same at the same
instants. So no worker is lost to a panic, and none is held up by it.

A session is followed side by side with the one in which a job turns out another way. Up to the
call for that job they are the same; from then on each step of the one is a step of the other.
-/

namespace TaskQueue

namespace PoolSession

variable {s s' : PoolSession} {i fuel : Nat} {o : Turnout} {outcome : StepOutcome}

/-- The session in which one job turns out another way. -/
def withTurnout (i : Nat) (o : Turnout) (s : PoolSession) : PoolSession :=
  { s with crew := s.crew.withTurnout i o }

@[simp] theorem now_withTurnout : (s.withTurnout i o).now = s.now := rfl

@[simp] theorem crew_withTurnout : (s.withTurnout i o).crew = s.crew.withTurnout i o := rfl

theorem isAnswered_withTurnout {k : Nat} : isAnswered k (s.withTurnout i o) = isAnswered k s :=
  any_getElem?_modify_of_blind fun _ => by simp

theorem isDrained_withTurnout : isDrained (s.withTurnout i o) = isDrained s :=
  Pool.isDrained_withEnding

theorem has_invariant (n : Nat) : Invariant fun s => s.crew.Has n where
  move := Crew.Has.step
  call := Crew.Has.call
  poll := Crew.Has.pollAll
  pass hs _ := hs

/-! ## The same steps -/

theorem settle_withTurnout (hs : s.crew.Has (i + 1)) :
    (s.withTurnout i o).settle = s.settle.withTurnout i o :=
  congrArg (PoolSession.mk s.now) (Crew.settle_withTurnout hs)

theorem tick?_withTurnout {until?} :
    (s.withTurnout i o).tick? until? = (s.tick? until?).map (·.withTurnout i o) := by
  simp only [tick?, crew_withTurnout, Crew.nextTimer?_withTurnout]
  split <;> rfl

theorem waitFor_withTurnout {enough until?} (hs : s.crew.Has (i + 1))
    (henough : ∀ s : PoolSession, enough (s.withTurnout i o) = enough s) :
    (s.withTurnout i o).waitFor enough until? fuel =
      (s.waitFor enough until? fuel).withTurnout i o := by
  induction fuel generalizing s with
  | zero => rfl
  | succ fuel ih =>
      simp only [waitFor, settle_withTurnout hs, henough, tick?_withTurnout]
      split
      · rfl
      · cases ht : s.settle.tick? until? with
        | some t => exact ih ((has_invariant _).tick? ((has_invariant _).settle hs) ht)
        | none => rfl

theorem findSome?_withTurnout {moves : List (Pool.Move Work)} (hs : s.crew.Has (i + 1))
    (hmoves : ∀ m ∈ moves, s.crew.pool.Honest m ∧ s.crew.pool.exchange i o.ending m = m) :
    (moves.findSome? fun m => (s.crew.withTurnout i o).step? s.now m) =
      (moves.findSome? fun m => s.crew.step? s.now m).map (·.withTurnout i o) := by
  induction moves with
  | nil => rfl
  | cons m moves ih =>
      obtain ⟨⟨hm, hsame⟩, hmoves⟩ := List.forall_mem_cons.mp hmoves
      have hstep : (s.crew.withTurnout i o).step? s.now m =
          (s.crew.step? s.now m).map (·.withTurnout i o) := by
        rw [← Crew.step?_withTurnout hm hs, hsame]
      simp only [List.findSome?_cons, hstep]
      cases s.crew.step? s.now m with
      | some crew => rfl
      | none => exact ih hmoves

theorem answerNow_withTurnout (hs : s.crew.Has (i + 1)) :
    (s.withTurnout i o).answerNow = s.answerNow.withTurnout i o := by
  simp only [answerNow, crew_withTurnout, Crew.pool_withTurnout, Pool.indices_withEnding,
    now_withTurnout]
  rw [findSome?_withTurnout hs fun m hm => ?_]
  · cases List.findSome? (s.crew.step? s.now) _ <;> rfl
  · simp only [List.mem_append, List.mem_map, List.mem_singleton] at hm
    rcases hm with ⟨k, -, rfl⟩ | rfl <;> exact ⟨trivial, rfl⟩

theorem tell_withTurnout {m} (hs : s.crew.Has (i + 1)) (hm : m = .cancel ∨ m = .close) :
    (s.withTurnout i o).tell m = (s.tell m).withTurnout i o := by
  have hstep : (s.crew.withTurnout i o).step? s.now m =
      (s.crew.step? s.now m).map (·.withTurnout i o) := by
    rcases hm with rfl | rfl
    · exact Crew.step?_withTurnout (m := .cancel) trivial hs
    · exact Crew.step?_withTurnout (m := .close) trivial hs
  simp only [tell, crew_withTurnout, now_withTurnout, hstep]
  cases s.crew.step? s.now m <;> rfl

theorem await?_withTurnout {k spawned} (hs : s.crew.Has (i + 1)) :
    (s.withTurnout i o).await? fuel k spawned =
      (s.await? fuel k spawned).map (Prod.map (·.withTurnout i o) id) := by
  simp only [await?, settle_withTurnout hs, answerNow_withTurnout hs, isAnswered_withTurnout,
    waitFor_withTurnout ((has_invariant _).answerNow hs) fun _ => isAnswered_withTurnout]
  split
  · rfl
  · split
    · rfl
    · split <;> rfl

/-- What a client can do, it can do when a job that it has submitted turns out another way. -/
theorem step?_withTurnout {step} (hs : s.crew.Has (i + 1)) :
    (s.withTurnout i o).step? fuel step =
      (s.step? fuel step).map (Prod.map (·.withTurnout i o) id) := by
  cases step with
  | submit job spawned =>
      simp only [step?, crew_withTurnout, now_withTurnout, Crew.call?_withTurnout hs]
      cases hc : s.crew.call? s.now job with
      | none => rfl
      | some crew =>
          simp only [Option.map_some, Option.bind_some, Crew.pool_withTurnout,
            Pool.length_withEnding]
          exact await?_withTurnout (s := { s with crew }) (hs.call hc)
  | sleep millis =>
      simp only [step?]
      split
      · rfl
      · exact congrArg (fun s => some (s, StepOutcome.nothing))
          (waitFor_withTurnout hs fun _ => rfl)
  | cancel =>
      exact congrArg (fun s => some (s, StepOutcome.nothing)) (tell_withTurnout hs (.inl rfl))
  | close =>
      simp only [step?, tell_withTurnout hs (.inr rfl), isDrained_withTurnout,
        waitFor_withTurnout ((has_invariant _).tell hs) fun _ => isDrained_withTurnout]
      split <;> rfl

variable {before after : List ClientStep} {job : Submission} {spawned : Bool}

section

variable {α β : Type} {R : α → β → Prop} {x : Option α} {y : Option β}

end

end PoolSession

end TaskQueue
