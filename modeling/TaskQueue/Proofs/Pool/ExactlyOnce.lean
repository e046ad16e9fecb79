import Mathlib.Algebra.GroupWithZero.Nat
import TaskQueue.Proofs.Pool.Session

/-!
# Each job once

Whatever the order of events, a job is refused, or it is accepted, run once if there is a handler to
run, and reported once. Whether it is refused is settled by what came first: the closing of the pool
counts against the calls that begin after it, and the cancellation against every job that is not
accepted yet. A pool is stuck only when a handler does not come to its end.
-/

namespace TaskQueue

namespace Occurrence

/-- What must have happened before something happens. The earlier calls were answered before a job
is accepted. -/
def Justified (o : Occurrence) (log : List Occurrence) : Prop :=
  match o with
  | .refused _ .cancelled => .cancelled ∈ log
  | .accepted i => .cancelled ∉ log ∧ ∀ k < i, .accepted k ∈ log ∨ ∃ why, .refused k why ∈ log
  | _ => True

end Occurrence

namespace Job

variable {i : Nat} {j : Job Work}

theorem called_mem_trail : .called i ∈ j.trail i := by
  unfold trail
  split <;> simp

theorem answered_of_trail (h : j.isWaiting = false) :
    .accepted i ∈ j.trail i ∨ ∃ why, .refused i why ∈ j.trail i := by
  unfold trail
  split <;> simp_all [isWaiting]

theorem refused_mem_trail {why} : .refused i why ∈ j.trail i ↔ j.stage = .refused why := by
  unfold trail
  split <;> rename_i hs <;> simp [hs]
  exact eq_comm

end Job

/-! ## What a pool can always do -/

/-- How many more moves a job at a stage can take part in. -/
def Stage.remaining : Stage → Nat
  | .waiting => 4
  | .queued => 3
  | .running _ false => 2
  | .running _ true => 1
  | .refused _ | .ended _ => 0

namespace Pool

variable {α : Type} {now : Instant} {p p' : Pool α} {m : Move α} {i : Nat} {j : Job α}

def remaining (p : Pool α) : Nat := (p.jobs.map (·.stage.remaining)).sum

def Move.advances : Move α → Bool
  | .call .. | .cancel | .close => false
  | .refuse _ | .enqueue | .start | .expire _ | .finish .. => true

theorem Move.advances_of_isInner (h : m.isInner = true) : m.advances = true := by
  cases m with
  | refuse | enqueue | start | expire => rfl
  | call | finish | cancel | close => cases h

theorem remaining_modify {f : Job α → Job α} (hj : p.jobs[i]? = some j) :
    (p.modify i f).remaining + j.stage.remaining = p.remaining + (f j).stage.remaining := by
  obtain ⟨before, after, hjobs, hmod⟩ := exists_split hj
  simp only [remaining, hmod, hjobs, List.map_append, List.map_cons, List.sum_append,
    List.sum_cons]
  omega

/-- Every such move leaves less to do, so a pool cannot go on for ever without new calls. -/
theorem Step.remaining_lt (h : Step now p m p') (hm : m.advances = true) :
    p'.remaining < p.remaining := by
  have hlt {i : Nat} {j : Job α} {f : Job α → Job α} (hj : p.jobs[i]? = some j)
      (hf : (f j).stage.remaining < j.stage.remaining) :
      (p.modify i f).remaining < p.remaining := by
    have heq := remaining_modify (f := f) hj
    omega
  cases h with
  | called | cancelled | closed => cases hm
  | refused _ hj hs | admitted _ _ _ hj hs | started _ _ hj hs | expired hj hs _ _ =>
      exact hlt hj (by simp [hs, Stage.remaining])
  | @finished i j since late failure hj hs =>
      exact hlt hj (by cases late <;> simp [hs, Stage.remaining])

theorem not_canMove_of_stuck (hstuck : p.ownMoves now = []) {m : Move α}
    (hm : m = .start ∨ m = .enqueue ∨ ∃ i < p.jobs.length, m = .refuse i) :
    p.step? now m = none := by
  have hnone := List.filter_eq_nil_iff.mp hstuck m (by
    rcases hm with rfl | rfl | ⟨i, hi, rfl⟩ <;> simp [indices, *])
  simpa [canMove] using hnone

/-- A pool that can do nothing on its own keeps a job in its queue only while all workers are
busy. -/
theorem size_le_running_of_stuck (hstuck : p.ownMoves now = []) (hq : 0 < p.queued) :
    p.size ≤ p.running := by
  refine Nat.le_of_not_lt fun hlt => ?_
  have hstart := not_canMove_of_stuck hstuck (.inl rfl)
  simp only [step?, hlt, if_true, Option.map_eq_none_iff] at hstart
  exact Nat.ne_of_gt hq (List.countP_eq_zero.mpr fun j hj => by
    simpa using List.findIdx?_eq_none_iff.mp hstart j hj)

/-- It keeps a call waiting only while there is no room in the queue. -/
theorem size_le_queued_of_stuck (hstuck : p.ownMoves now = []) (hw : 0 < p.waiting) :
    p.size ≤ p.queued := by
  refine Nat.le_of_not_lt fun hlt => Nat.ne_of_gt hw (List.countP_eq_zero.mpr fun j hj => ?_)
  cases hc : p.cancelled with
  | true =>
      obtain ⟨i, hi, rfl⟩ := List.getElem_of_mem hj
      have hrefuse := not_canMove_of_stuck hstuck (.inr (.inr ⟨i, hi, rfl⟩))
      simpa [step?, hc, List.getElem?_eq_getElem hi] using hrefuse
  | false =>
      have henqueue := not_canMove_of_stuck hstuck (.inr (.inl rfl))
      simp only [step?, hc, hlt, Bool.not_false, Bool.true_and, decide_true,
        if_true, Option.map_eq_none_iff] at henqueue
      simpa using List.findIdx?_eq_none_iff.mp henqueue j hj

end Pool

namespace PoolHistory

open Occurrence

variable {h h' : PoolHistory} {e : Event} {es : List Event} {size i : Nat} {now : Instant}
  {j : Job Work}

/-! ## What every history preserves -/

/-- What is true of a history at any time: its log agrees with the state of its pool, and everything
in it was justified. -/
structure Sound (h : PoolHistory) : Prop where
  size : 0 < h.pool.size
  trail : ∀ i, about h.log i = h.pool.trail i
  closed : h.pool.closed = true ↔ .closed ∈ h.log
  cancelled : h.pool.cancelled = true ↔ .cancelled ∈ h.log
  justified : ∀ o ∈ h.log, o.Justified (prior h.log o)
  begun : ∀ i j, h.pool.jobs[i]? = some j →
    (j.stage = .refused .closed ↔ .closed ∈ prior h.log (.called i))

theorem Sound.start : (start size now).Sound := by
  refine ⟨?_, fun _ => rfl, ?_, ?_, ?_, ?_⟩
  · exact Nat.lt_of_lt_of_le Nat.one_pos (Nat.le_max_right size 1)
  all_goals simp [PoolHistory.start, Pool.ofSize]

theorem Sound.mem_log (hh : h.Sound) (hj : h.pool.jobs[i]? = some j) {o : Occurrence}
    (ho : o.job? = some i) : o ∈ h.log ↔ o ∈ j.trail i := by
  have htrail := hh.trail i
  simp only [Pool.trail, hj] at htrail
  rw [← htrail, mem_about]
  exact ⟨fun hm => ⟨hm, ho⟩, And.left⟩

theorem Sound.called_mem (hh : h.Sound) (hj : h.pool.jobs[i]? = some j) : .called i ∈ h.log :=
  (hh.mem_log hj rfl).mpr Job.called_mem_trail

theorem Sound.justified_step {m pool} (hh : h.Sound) (hp : Pool.Step h.now h.pool m pool) :
    ∀ o ∈ h.pool.occurrences m,
      o.Justified (h.log ++ prior (h.pool.occurrences m) o) := by
  cases hp with
  | called _ =>
      intro o ho
      cases hcl : h.pool.closed <;> simp [Pool.occurrences, hcl] at ho
      · subst o; trivial
      · rcases ho with rfl | rfl <;> trivial
  | refused hc _ _ =>
      intro o ho
      simp only [Pool.occurrences, List.mem_singleton] at ho
      subst o
      exact List.mem_append_left _ (hh.cancelled.mp hc)
  | @admitted i j hc _ hi hj hs =>
      intro o ho
      simp only [Pool.occurrences, hi, Option.toList_some, List.map_cons, List.map_nil,
        List.mem_singleton] at ho
      subst o
      obtain ⟨_, _, _, hearlier⟩ := Pool.exists_of_findIdx? hi
      have hlt : i < h.pool.jobs.length := (List.getElem?_eq_some_iff.mp hj).1
      have hprior : prior (h.pool.occurrences .enqueue) (.accepted i) = [] := by
        simp [Pool.occurrences, hi, prior]
      rw [hprior, List.append_nil]
      refine ⟨?_, ?_⟩
      · rw [← hh.cancelled, hc]; simp
      · intro k hk
        have hjk := List.getElem?_eq_getElem (Nat.lt_trans hk hlt)
        rcases Job.answered_of_trail (i := k) (hearlier k _ hk hjk) with ha | ⟨why, hw⟩
        · exact .inl ((hh.mem_log hjk rfl).mpr ha)
        · exact .inr ⟨why, (hh.mem_log hjk rfl).mpr hw⟩
  | started _ hi hj _ =>
      intro o ho
      simp only [Pool.occurrences, hi, hj, Option.toList_some, List.flatMap_cons,
        List.flatMap_nil, List.append_nil, Job.mem_runs] at ho
      rw [ho.1]
      trivial
  | expired _ _ _ _ => simp [Pool.occurrences]
  | finished hj hs =>
      intro o ho
      simp only [Pool.occurrences, hj, hs, List.mem_singleton] at ho
      subst o; trivial
  | cancelled | closed =>
      intro o ho
      simp only [Pool.occurrences, List.mem_singleton] at ho
      subst o; trivial

/-- A step neither refuses a job that was called before it for being closed, nor takes such a
refusal back. -/
theorem stage_closed_step {m pool} (hp : Pool.Step now h.pool m pool)
    (hj : h.pool.jobs[i]? = some j) :
    ∃ j', pool.jobs[i]? = some j' ∧
      (j'.stage = .refused .closed ↔ j.stage = .refused .closed) := by
  have hchange {k : Nat} {j' j'' : Job Work} (hk : h.pool.jobs[k]? = some j'')
      (hbefore : j''.stage ≠ .refused .closed) (hafter : j'.stage ≠ .refused .closed)
      (hpool : pool.jobs[i]? = if k = i then some j' else h.pool.jobs[i]?) :
      ∃ j', pool.jobs[i]? = some j' ∧
        (j'.stage = .refused .closed ↔ j.stage = .refused .closed) := by
    split at hpool
    · subst k
      rw [hj] at hk
      cases hk
      exact ⟨j', hpool, by simp [hbefore, hafter]⟩
    · exact ⟨j, hpool.trans hj, .rfl⟩
  cases hp with
  | called _ =>
      have hlt := (List.getElem?_eq_some_iff.mp hj).1
      exact ⟨j, by simpa [List.getElem?_append_left hlt] using hj, .rfl⟩
  | refused _ hk hs | admitted _ _ _ hk hs | started _ _ hk hs | finished hk hs =>
      exact hchange hk (by simp [hs]) (by simp) (Pool.getElem?_setStage hk)
  | expired hk hs _ _ => exact hchange hk (by simp [hs]) (by simp) (Pool.getElem?_modify hk)
  | cancelled | closed => exact ⟨j, hj, .rfl⟩

theorem Sound.move {m pool} (hh : h.Sound) (hp : Pool.Step h.now h.pool m pool) :
    Sound { h with pool, log := h.log ++ h.pool.occurrences m } := by
  constructor
  case size => cases hp <;> exact hh.size
  case trail =>
    intro i
    rw [about_append, hh.trail i, hp.trail i]
  case closed =>
    have hnew : pool.closed = true ↔ h.pool.closed = true ∨ .closed ∈ h.pool.occurrences m := by
      cases hp <;> simp [Pool.occurrences, Pool.setStage, *]
    simp [hnew, hh.closed]
  case cancelled =>
    have hnew : pool.cancelled = true ↔
        h.pool.cancelled = true ∨ .cancelled ∈ h.pool.occurrences m := by
      cases hp <;> simp [Pool.occurrences, Pool.setStage, *]
    simp [hnew, hh.cancelled]
  case justified =>
    exact forall_prior_append (Q := fun o log => o.Justified log) hh.justified
      fun o ho _ => hh.justified_step hp o ho
  case begun =>
    intro i j' hj'
    cases hj : h.pool.jobs[i]? with
    | some j =>
        obtain ⟨j'', hj'', hiff⟩ := stage_closed_step hp hj
        cases hj'.symm.trans hj''
        rw [prior_append_of_mem (hh.called_mem hj), hiff]
        exact hh.begun i j hj
    | none =>
        -- the only step that adds a job is its call
        have hge := List.getElem?_eq_none_iff.mp hj
        have hlt := (List.getElem?_eq_some_iff.mp hj').1
        cases hp with
        | @called worker subject limit work context _ =>
            simp only [List.length_append, List.length_singleton] at hlt
            have hi : i = h.pool.jobs.length := by omega
            subst hi
            have hnot : .called h.pool.jobs.length ∉ h.log := by
              intro hmem
              have hab := mem_about.mpr ⟨hmem, rfl⟩
              simp [hh.trail, Pool.trail] at hab
            have hprior : prior (h.log ++ h.pool.occurrences (.call worker subject limit work))
                (.called h.pool.jobs.length) = h.log := by
              rw [prior_append_of_not_mem hnot]
              simp [Pool.occurrences, prior]
            rw [hprior, ← hh.closed]
            simp only [List.getElem?_concat_length, Option.some.injEq] at hj'
            subst j'
            cases hcl : h.pool.closed <;> simp [Pool.firstStage, hcl]
        | refused | admitted | started | expired | finished =>
            simp only [Pool.setStage, Pool.length_modify] at hlt
            omega
        | cancelled | closed => exact absurd hlt (Nat.not_lt_of_le hge)

theorem Sound.run (hh : h.Sound) (hs : after? step? es h = some h') : h'.Sound := by
  refine after?_preserves (P := Sound) ?_ hs hh
  intro e h h' hs hh
  cases e with
  | move m =>
      obtain ⟨pool, hp, rfl⟩ := step?_move hs
      exact hh.move hp
  | pass nanos =>
      cases hs
      exact ⟨hh.size, hh.trail, hh.closed, hh.cancelled, hh.justified, hh.begun⟩

/-! ## The fate of each job -/

/-- What holds of a job at any time. -/
structure Served (h : PoolHistory) (i : Nat) (j : Job Work) : Prop where
  /-- What happened to it belongs to its stage, and happened once. -/
  once : about h.log i = j.trail i
  /-- It is refused for the closing of the pool if its call began after that, and only then. -/
  closed : .refused i .closed ∈ h.log ↔ .closed ∈ prior h.log (.called i)
  /-- It is refused for the cancellation only after that. -/
  cancelled : .refused i .cancelled ∈ h.log → .cancelled ∈ prior h.log (.refused i .cancelled)
  /-- It is accepted only before the cancellation. -/
  accepted : .accepted i ∈ h.log → .cancelled ∉ prior h.log (.accepted i)
  /-- It is accepted in its turn: all earlier calls were answered. -/
  inTurn : .accepted i ∈ h.log → ∀ k < i, .accepted k ∈ prior h.log (.accepted i) ∨
    ∃ why, .refused k why ∈ prior h.log (.accepted i)

/-- What happened to a job in all, once it is over. -/
def Finished (h : PoolHistory) (i : Nat) (j : Job Work) : Prop :=
  (∃ why, about h.log i = [.called i, .refused i why]) ∨
    ∃ result, about h.log i = [.called i, .accepted i] ++ j.runs i ++ [.reported i result]

theorem Sound.served (hh : h.Sound) (hj : h.pool.jobs[i]? = some j) : h.Served i j := by
  constructor
  case once => simpa [Pool.trail, hj] using hh.trail i
  case closed => rw [hh.mem_log hj rfl, Job.refused_mem_trail, hh.begun i j hj]
  case cancelled => exact fun hm => hh.justified _ hm
  case accepted => exact fun hm => (hh.justified _ hm).1
  case inTurn => exact fun hm => (hh.justified _ hm).2

theorem Sound.finished (hh : h.Sound) (hd : h.pool.isDrained = true)
    (hj : h.pool.jobs[i]? = some j) : h.Finished i j := by
  have hover : j.isOver = true := List.all_eq_true.mp hd j (List.mem_of_getElem? hj)
  have honce := (hh.served hj).once
  unfold Job.trail at honce
  cases hs : j.stage with
  | refused why => exact .inl ⟨why, by simpa [hs] using honce⟩
  | ended result => exact .inr ⟨result, by simpa [hs] using honce⟩
  | waiting | queued | running => simp [Job.isOver, hs] at hover

end PoolHistory

end TaskQueue
