import TaskQueue.Pool.Session
import TaskQueue.Proofs.Pool.History

/-!
# Sessions as histories

All that happens to a session happens by moves of its crew, by looks at its callbacks and by time
that passes, so what these preserve holds of it for good. In particular its pool is one that a
history leads to. A session that comes to its end leaves a closed pool in which every job is
over.
-/

namespace TaskQueue

/-- Whether a move is one that the client brings about at any time: its call is answered, or it
cancels or closes the pool. -/
def Pool.Move.isPrompt {α : Type} : Pool.Move α → Bool
  | .refuse _ | .enqueue | .cancel | .close => true
  | .call .. | .start | .expire _ | .finish .. => false

namespace Crew

variable {now : Instant} {c c' : Crew} {m : Pool.Move Work}

theorem step?_pool (h : c.step? now m = some c') : c.pool.step? now m = some c'.pool := by
  obtain ⟨pool, hp, rfl⟩ := Option.map_eq_some_iff.mp h
  exact hp

theorem pollJob_pool (i : Nat) : (c.pollJob now i).pool = c.pool := by
  unfold pollJob
  split
  · split <;> rfl
  · rfl

theorem pollAll_pool : (c.pollAll now).pool = c.pool := by
  unfold pollAll
  generalize c.pool.indices = is
  induction is generalizing c with
  | nil => rfl
  | cons i is ih => exact ih.trans (pollJob_pool i)

end Crew

namespace PoolSession

variable {h₀ : PoolHistory} {s s' : PoolSession} {crew : Crew} {m : Pool.Move Work} {fuel : Nat}

/-! ## What sessions preserve -/

/-- What sessions set out to wait for: an instant some milliseconds after one of their own. -/
def SetBy (P : PoolSession → Prop) (until? : Option Instant) : Prop :=
  ∀ target ∈ until?, ∃ s millis, P s ∧ target = s.now + Instant.ofMillis millis

/-- What holds of a session whatever a session does to it: its crew makes its most urgent move or
one that the client brings about, a call begins, the callbacks are looked at, or time passes that
the session waits when everything is settled. -/
structure Steady (P : PoolSession → Prop) : Prop where
  move : ∀ {s m crew}, P s → s.crew.next? s.now = some m ∨ m.isPrompt = true →
    s.crew.step? s.now m = some crew → P { s with crew }
  call : ∀ {s job crew}, P s → s.crew.call? s.now job = some crew → P { s with crew }
  poll : ∀ {s}, P s → P { s with crew := s.crew.pollAll s.now }
  pass : ∀ {s s' until?}, P s → P s.settle → SetBy P until? → s.settle.tick? until? = some s' →
    P s'

namespace Steady

variable {P : PoolSession → Prop}

theorem settleFor (hP : Steady P) (hs : P s) :
    P { s with crew := s.crew.settleFor s.now fuel } := by
  induction fuel generalizing s with
  | zero => exact hs
  | succ fuel ih =>
      simp only [Crew.settleFor]
      split
      · rename_i crew hnext
        obtain ⟨m, hm, hc⟩ := Option.bind_eq_some_iff.mp hnext
        exact ih (s := { s with crew }) (hP.move hs (.inl hm) hc)
      · exact hP.poll hs

theorem settle (hP : Steady P) (hs : P s) : P s.settle := hP.settleFor hs

theorem waitFor {enough until?} (hP : Steady P) (hs : P s) (huntil : SetBy P until?) :
    P (s.waitFor enough until? fuel) := by
  induction fuel generalizing s with
  | zero => exact hs
  | succ fuel ih =>
      simp only [PoolSession.waitFor]
      split
      · exact hP.settle hs
      · split
        · exact ih (hP.pass hs (hP.settle hs) huntil ‹_›)
        · exact hP.settle hs

theorem answerNow (hP : Steady P) (hs : P s) : P s.answerNow := by
  unfold PoolSession.answerNow
  simp only
  split
  · rename_i crew hm
    obtain ⟨m, hmem, hc⟩ := List.exists_of_findSome?_eq_some hm
    refine hP.move hs (.inr ?_) hc
    simp only [List.mem_append, List.mem_map, List.mem_singleton] at hmem
    rcases hmem with ⟨_, -, rfl⟩ | rfl <;> rfl
  · exact hs

theorem tell (hP : Steady P) (hs : P s) (hm : m.isPrompt = true) : P (s.tell m) := by
  unfold PoolSession.tell
  cases hc : s.crew.step? s.now m with
  | some crew => exact hP.move hs (.inr hm) hc
  | none => exact hs

theorem await? {i spawned outcome} (hP : Steady P) (hs : P s)
    (ht : s.await? fuel i spawned = some (s', outcome)) : P s' := by
  simp only [PoolSession.await?] at ht
  split at ht
  · cases ht; exact hP.settle hs
  · split at ht
    · cases ht; exact hP.answerNow hs
    · split at ht <;> cases ht
      exact hP.waitFor (hP.answerNow hs) nofun

theorem step? {step outcome} (hP : Steady P) (hs : P s)
    (ht : s.step? fuel step = some (s', outcome)) : P s' := by
  cases step with
  | submit job spawned =>
      obtain ⟨crew, hc, ht⟩ := Option.bind_eq_some_iff.mp ht
      exact hP.await? (hP.call hs hc) ht
  | sleep millis =>
      simp only [PoolSession.step?] at ht
      split at ht <;> cases ht
      · exact hs
      · refine hP.waitFor hs fun target htarget => ?_
        cases htarget
        exact ⟨s, millis, hs, rfl⟩
  | cancel => cases ht; exact hP.tell hs rfl
  | close =>
      simp only [PoolSession.step?] at ht
      split at ht <;> cases ht
      exact hP.waitFor (hP.tell hs rfl) nofun

theorem runSteps {steps outcomes} (hP : Steady P) (hs : P s)
    (hr : s.runSteps fuel steps = some (s', outcomes)) : P s' := by
  induction steps generalizing s outcomes with
  | nil =>
      obtain ⟨⟨t, last⟩, ht, hr⟩ := Option.bind_eq_some_iff.mp hr
      cases hr
      exact hP.step? hs ht
  | cons step steps ih =>
      obtain ⟨⟨t, outcome⟩, ht, hr⟩ := Option.bind_eq_some_iff.mp hr
      obtain ⟨⟨t', rest⟩, ht', hr⟩ := Option.bind_eq_some_iff.mp hr
      cases hr
      exact ih (hP.step? hs ht) ht'

end Steady

/-- What holds of a session whatever happens to it: a move is made, a call begins, the callbacks are
looked at, or time passes. -/
structure Invariant (P : PoolSession → Prop) : Prop where
  move : ∀ {s m crew}, P s → s.crew.step? s.now m = some crew → P { s with crew }
  call : ∀ {s job crew}, P s → s.crew.call? s.now job = some crew → P { s with crew }
  poll : ∀ {s}, P s → P { s with crew := s.crew.pollAll s.now }
  pass : ∀ {s now}, P s → s.now ≤ now → P { s with now }

namespace Invariant

variable {P : PoolSession → Prop}

theorem tick? {until?} (hP : Invariant P) (hs : P s) (ht : s.tick? until? = some s') : P s' := by
  unfold PoolSession.tick? at ht
  split at ht <;> cases ht <;> exact hP.pass hs (Nat.le_max_left ..)

theorem steady (hP : Invariant P) : Steady P where
  move hs _ hc := hP.move hs hc
  call := hP.call
  poll := hP.poll
  pass _ hs _ ht := hP.tick? hs ht

theorem settle (hP : Invariant P) (hs : P s) : P s.settle := hP.steady.settle hs

theorem answerNow (hP : Invariant P) (hs : P s) : P s.answerNow := hP.steady.answerNow hs

theorem tell (hP : Invariant P) (hs : P s) : P (s.tell m) := by
  unfold PoolSession.tell
  cases hc : s.crew.step? s.now m with
  | some crew => exact hP.move hs hc
  | none => exact hs

theorem await? {i spawned outcome} (hP : Invariant P) (hs : P s)
    (ht : s.await? fuel i spawned = some (s', outcome)) : P s' :=
  hP.steady.await? hs ht

theorem step? {step outcome} (hP : Invariant P) (hs : P s)
    (ht : s.step? fuel step = some (s', outcome)) : P s' :=
  hP.steady.step? hs ht

theorem runSteps {steps outcomes} (hP : Invariant P) (hs : P s)
    (hr : s.runSteps fuel steps = some (s', outcomes)) : P s' :=
  hP.steady.runSteps hs hr

end Invariant

/-! ## Histories -/

/-- A session with the clock and the pool that the events of a history lead to. -/
def FollowsBy (h₀ : PoolHistory) (es : List PoolHistory.Event) (s : PoolSession) : Prop :=
  ∃ h, after? PoolHistory.step? es h₀ = some h ∧ h.now = s.now ∧ h.pool = s.crew.pool

namespace FollowsBy

variable {es : List PoolHistory.Event}

theorem move (hs : s.FollowsBy h₀ es) (hc : s.crew.step? s.now m = some crew) :
    FollowsBy h₀ (es ++ [.move m]) { s with crew } := by
  obtain ⟨h, hr, hnow, hpool⟩ := hs
  have hstep : h.pool.step? h.now m = some crew.pool := by
    rw [hnow, hpool]
    exact Crew.step?_pool hc
  let h' : PoolHistory := { h with pool := crew.pool, log := h.log ++ h.pool.occurrences m }
  refine ⟨h', after?_snoc.mpr ⟨h, hr, ?_⟩, hnow, rfl⟩
  simp [PoolHistory.step?, hstep, h']

theorem pass {now : Instant} (hs : s.FollowsBy h₀ es) (hle : s.now ≤ now) :
    FollowsBy h₀ (es ++ [.pass (now - s.now)]) { s with now } := by
  obtain ⟨h, hr, hnow, hpool⟩ := hs
  let h' : PoolHistory := { h with now := h.now + (now - s.now) }
  refine ⟨h', after?_snoc.mpr ⟨h, hr, rfl⟩, ?_, hpool⟩
  simp [h', hnow, Nat.add_sub_cancel' hle]

theorem withPool (hs : s.FollowsBy h₀ es) (hc : crew.pool = s.crew.pool) :
    FollowsBy h₀ es { s with crew } := by
  obtain ⟨h, hr, hnow, hpool⟩ := hs
  exact ⟨h, hr, hnow, hpool.trans hc.symm⟩

theorem call {job} (hs : s.FollowsBy h₀ es) (hc : s.crew.call? s.now job = some crew) :
    FollowsBy h₀ (es ++ [.move (.call job.worker job.subject job.limit job.work)])
      { s with crew } := by
  obtain ⟨called, hm, rfl⟩ := Option.map_eq_some_iff.mp hc
  exact (hs.move hm).withPool rfl

end FollowsBy

/-- A session with the clock and the pool that a history leads to. -/
def FollowsFrom (h₀ : PoolHistory) (s : PoolSession) : Prop :=
  ∃ es h, after? PoolHistory.step? es h₀ = some h ∧ h.now = s.now ∧ h.pool = s.crew.pool

namespace FollowsFrom

theorem move (hs : s.FollowsFrom h₀) (hc : s.crew.step? s.now m = some crew) :
    FollowsFrom h₀ { s with crew } := by
  obtain ⟨_, hs⟩ := hs
  exact ⟨_, FollowsBy.move hs hc⟩

theorem pass {now : Instant} (hs : s.FollowsFrom h₀) (hle : s.now ≤ now) :
    FollowsFrom h₀ { s with now } := by
  obtain ⟨_, hs⟩ := hs
  exact ⟨_, FollowsBy.pass hs hle⟩

theorem withPool (hs : s.FollowsFrom h₀) (hc : crew.pool = s.crew.pool) :
    FollowsFrom h₀ { s with crew } := by
  obtain ⟨es, hs⟩ := hs
  exact ⟨es, FollowsBy.withPool hs hc⟩

theorem call {job} (hs : s.FollowsFrom h₀) (hc : s.crew.call? s.now job = some crew) :
    FollowsFrom h₀ { s with crew } := by
  obtain ⟨_, hs⟩ := hs
  exact ⟨_, FollowsBy.call hs hc⟩

theorem invariant : Invariant (FollowsFrom h₀) where
  move := move
  call := call
  poll hs := hs.withPool Crew.pollAll_pool
  pass := pass

theorem settle (hs : s.FollowsFrom h₀) : s.settle.FollowsFrom h₀ := invariant.settle hs

end FollowsFrom

/-! ## Closed pools stay closed -/

theorem closed_after {es} {h h' : PoolHistory} (hr : after? PoolHistory.step? es h = some h')
    (hc : h.pool.closed = true) : h'.pool.closed = true := by
  refine after?_preserves (P := fun h => h.pool.closed = true) ?_ hr hc
  intro e h h' hs hc
  cases e with
  | move m =>
      obtain ⟨pool, hp, rfl⟩ := PoolHistory.step?_move hs
      cases hp <;> first | exact hc | rfl
  | pass nanos => cases hs; exact hc

theorem step?_close {outcome} (h : s.step? fuel .close = some (s', outcome)) :
    s'.crew.pool.closed = true ∧ s'.crew.pool.isDrained = true := by
  simp only [step?] at h
  split at h
  · rename_i hdrained
    cases h
    have hfollows : FollowsFrom ⟨s.now, (s.tell .close).crew.pool, []⟩
        ((s.tell .close).waitFor isDrained none fuel) :=
      FollowsFrom.invariant.steady.waitFor ⟨[], _, rfl, rfl, rfl⟩ nofun
    obtain ⟨es, h, hr, -, hpool⟩ := hfollows
    exact ⟨hpool ▸ closed_after hr rfl, hdrained⟩
  · cases h

theorem runSteps_closed {steps outcomes} (hr : s.runSteps fuel steps = some (s', outcomes)) :
    s'.crew.pool.closed = true ∧ s'.crew.pool.isDrained = true := by
  induction steps generalizing s outcomes with
  | nil =>
      obtain ⟨⟨t, last⟩, ht, hr⟩ := Option.bind_eq_some_iff.mp hr
      cases hr
      exact step?_close ht
  | cons step steps ih =>
      obtain ⟨⟨t, outcome⟩, -, hr⟩ := Option.bind_eq_some_iff.mp hr
      obtain ⟨⟨t', rest⟩, ht', hr⟩ := Option.bind_eq_some_iff.mp hr
      cases hr
      exact ih ht'

end PoolSession

end TaskQueue
