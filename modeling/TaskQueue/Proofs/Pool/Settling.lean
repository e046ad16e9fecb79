import Mathlib.Algebra.Order.BigOperators.Group.List
import Mathlib.Algebra.Order.Group.Nat
import TaskQueue.Proofs.Pool.ExactlyOnce

/-!
# Settling

A crew that settles comes to an end, since each move that it makes leaves its pool less to do. The
pool that it leaves is quiet: nothing happens to it before a call begins, a handler comes to its
end, the clock goes on, or someone cancels or closes it.
-/

namespace TaskQueue

namespace Pool

variable {now : Instant} {p : Pool Work}

/-- Nothing can happen in a pool before something new does: it can make no move on its own, and
whatever runs is a handler. -/
structure IsQuiet (now : Instant) (p : Pool Work) : Prop where
  stuck : p.ownMoves now = []
  handled : ∀ j ∈ p.jobs, j.isRunning = true → j.work.isRunnable = true

theorem remaining_le : p.remaining ≤ 4 * p.jobs.length := by
  have hle : ∀ n ∈ p.jobs.map (·.stage.remaining), n ≤ 4 := by
    intro n hn
    obtain ⟨j, -, rfl⟩ := List.mem_map.mp hn
    unfold Stage.remaining
    split <;> omega
  have hsum := List.sum_le_card_nsmul _ 4 hle
  simpa [remaining, Nat.mul_comm] using hsum

end Pool

namespace Crew

variable {now : Instant} {c c' : Crew} {m : Pool.Move Work} {i : Nat}

/-! ## Records -/

def IsRecorded (c : Crew) : Prop := c.records.length = c.pool.jobs.length

@[simp] theorem length_note (f : JobRecord → JobRecord) :
    (c.note i f).records.length = c.records.length := by
  simp [note]

@[simp] theorem length_pollJob : (c.pollJob now i).records.length = c.records.length := by
  unfold pollJob
  split
  · split <;> simp
  · rfl

@[simp] theorem length_noteStart : (c.noteStart now i).records.length = c.records.length := by
  unfold noteStart
  split <;> simp

theorem length_noteMove (hm : m.isCall = false) :
    (c.noteMove now m).records.length = c.records.length := by
  cases m with
  | call => cases hm
  | refuse i => exact length_note _
  | enqueue =>
      simp only [noteMove, note?]
      split <;> simp
  | start =>
      simp only [noteMove]
      split <;> simp
  | finish i failure => exact (length_note _).trans length_pollJob
  | expire i => exact length_note _
  | cancel => simp [noteMove]
  | close => rfl

theorem IsRecorded.step (hc : c.IsRecorded) (h : c.step? now m = some c') : c'.IsRecorded := by
  have hp := Pool.step?_sound (step?_pool h)
  obtain ⟨pool, -, rfl⟩ := Option.map_eq_some_iff.mp h
  unfold IsRecorded at hc ⊢
  cases hm : m.isCall with
  | false => simp only [length_noteMove hm, hp.length_eq hm, hc]
  | true => cases hp <;> simp_all [Pool.Move.isCall, noteMove]

/-! ## Moves that a crew makes by itself -/

theorem finishing?_advances (h : c.finishing? now i = some m) : m.advances = true := by
  unfold finishing? at h
  split at h
  · split at h
    · split at h
      · split at h <;> cases h
        rfl
      · cases h; rfl
      · cases h
    · cases h
  · cases h

theorem advances_of_mem_ownMoves (h : m ∈ c.ownMoves now) : m.advances = true := by
  simp only [ownMoves, List.mem_append, List.mem_map, List.mem_filterMap, List.mem_cons,
    List.not_mem_nil, or_false] at h
  rcases h with ((⟨_, -, rfl⟩ | ⟨_, -, hf⟩) | ⟨_, -, rfl⟩) | rfl | rfl
  · rfl
  · exact finishing?_advances hf
  · rfl
  · rfl
  · rfl

/-- A job whose payload does not decode is done as soon as it runs. -/
theorem next?_of_unrunnable {j : Job Work} (hc : c.IsRecorded) (hj : c.pool.jobs[i]? = some j)
    (hrunning : j.isRunning = true) (hwork : j.work.isRunnable = false) :
    c.next? now ≠ none := by
  have hi : i < c.pool.jobs.length := (List.getElem?_eq_some_iff.mp hj).1
  have hrecord : i < c.records.length := hc ▸ hi
  obtain ⟨reason, hreason⟩ : ∃ reason, j.work = .undecodable reason := by
    cases hw : j.work <;> simp_all [Work.isRunnable]
  have hfinishing : c.finishing? now i = some (.finish i (some (.invalidPayload reason))) := by
    simp [finishing?, hj, List.getElem?_eq_getElem hrecord, hrunning, hreason]
  have hcan : c.pool.canMove now (.finish i (some (.invalidPayload reason))) = true := by
    unfold Job.isRunning at hrunning
    split at hrunning
    · rename_i hs
      simp [Pool.canMove, Pool.step?, hj, hs]
    · cases hrunning
  intro hnone
  refine List.find?_eq_none.mp hnone _ ?_ hcan
  simp only [ownMoves, List.mem_append, List.mem_filterMap]
  exact .inl (.inl (.inr ⟨i, by simp [Pool.indices, hi], hfinishing⟩))

theorem isQuiet_of_next? (hc : c.IsRecorded) (h : c.next? now = none) : c.pool.IsQuiet now := by
  constructor
  case stuck =>
    refine List.filter_eq_nil_iff.mpr fun m hm => List.find?_eq_none.mp h m ?_
    simp only [ownMoves, List.mem_append] at hm ⊢
    rcases hm with (hm | hm) | hm
    · exact .inl (.inl (.inl hm))
    · exact .inl (.inr hm)
    · exact .inr hm
  case handled =>
    intro j hj hrunning
    obtain ⟨i, hi⟩ := List.getElem?_of_mem hj
    cases hwork : j.work.isRunnable with
    | true => rfl
    | false => exact absurd h (next?_of_unrunnable hc hi hrunning hwork)

/-! ## Settling -/

theorem settleFor_isQuiet {fuel : Nat} (hc : c.IsRecorded) (hfuel : c.pool.remaining < fuel) :
    (settleFor now fuel c).pool.IsQuiet now := by
  induction fuel generalizing c with
  | zero => omega
  | succ fuel ih =>
      simp only [settleFor]
      split
      · rename_i c' hnext
        obtain ⟨m, hm, hs⟩ := Option.bind_eq_some_iff.mp hnext
        have hlt := (Pool.step?_sound (step?_pool hs)).remaining_lt
          (advances_of_mem_ownMoves (List.mem_of_find?_eq_some hm))
        exact ih (hc.step hs) (by omega)
      · rename_i hnext
        rw [pollAll_pool]
        refine isQuiet_of_next? hc (Option.eq_none_iff_forall_ne_some.mpr fun m hm => ?_)
        -- the move that is found can be made
        have hcan : c.pool.canMove now m = true := List.find?_some hm
        simp_all [step?, Pool.canMove]

theorem settle_isQuiet (hc : c.IsRecorded) : (c.settle now).pool.IsQuiet now :=
  settleFor_isQuiet hc (Nat.lt_succ_of_le Pool.remaining_le)

end Crew

end TaskQueue
