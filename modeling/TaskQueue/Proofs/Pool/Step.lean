import TaskQueue.Pool.Basic

/-!
# Steps of a pool

The moves of a pool as a relation, one rule for each thing that can happen to it. Apart from a call,
which adds a job, a step changes the stage of one job at most, and a job never goes back to a stage
that it left.
-/

namespace TaskQueue.Pool

variable {α : Type} {now : Instant} {p p' : Pool α} {m : Move α} {i k : Nat} {j j' : Job α}

/-! ## Changing a job -/

theorem getElem?_modify {f : Job α → Job α} (hj : p.jobs[i]? = some j) :
    (p.modify i f).jobs[k]? = if i = k then some (f j) else p.jobs[k]? := by
  simp only [modify, List.getElem?_modify]
  split
  · subst k; simp [hj]
  · simp

theorem getElem?_setStage {stage : Stage} (hj : p.jobs[i]? = some j) :
    (p.setStage i stage).jobs[k]? = if i = k then some { j with stage } else p.jobs[k]? :=
  getElem?_modify hj

@[simp] theorem length_modify (f : Job α → Job α) : (p.modify i f).jobs.length = p.jobs.length := by
  simp [modify]

@[simp] theorem size_modify (f : Job α → Job α) : (p.modify i f).size = p.size := rfl

@[simp] theorem closed_modify (f : Job α → Job α) : (p.modify i f).closed = p.closed := rfl

@[simp] theorem cancelled_modify (f : Job α → Job α) : (p.modify i f).cancelled = p.cancelled := rfl

/-- The jobs before and after one that is changed stay as they are. -/
theorem exists_split (hj : p.jobs[i]? = some j) : ∃ before after,
    p.jobs = before ++ j :: after ∧ ∀ f, (p.modify i f).jobs = before ++ f j :: after := by
  obtain ⟨hi, rfl⟩ := List.getElem?_eq_some_iff.mp hj
  refine ⟨p.jobs.take i, p.jobs.drop (i + 1), ?_, fun f => List.modify_eq_take_cons_drop hi⟩
  rw [← List.drop_eq_getElem_cons hi, List.take_append_drop]

theorem countP_modify {f : Job α → Job α} {q : Job α → Bool} (hj : p.jobs[i]? = some j) :
    (p.modify i f).jobs.countP q + (q j).toNat = p.jobs.countP q + (q (f j)).toNat := by
  obtain ⟨before, after, hjobs, hmod⟩ := exists_split hj
  rw [hmod, hjobs]
  simp only [List.countP_append, List.countP_cons]
  cases q j <;> cases q (f j) <;> simp <;> omega

theorem forall_modify {f : Job α → Job α} {P : Job α → Prop} (h : ∀ j ∈ p.jobs, P j)
    (hj : p.jobs[i]? = some j) (hf : P (f j)) : ∀ j ∈ (p.modify i f).jobs, P j := by
  obtain ⟨before, after, hjobs, hmod⟩ := exists_split hj
  rw [hjobs] at h
  rw [hmod]
  intro q hq
  rcases List.mem_append.mp hq with hq | hq
  · exact h q (List.mem_append_left _ hq)
  · rcases List.mem_cons.mp hq with rfl | hq
    · exact hf
    · exact h q (List.mem_append_right _ (List.mem_cons_of_mem _ hq))

theorem any_modify {f : Job α → Job α} {q : Job α → Bool} (hj : p.jobs[i]? = some j)
    (hf : q (f j) = q j) : ((p.modify i f).jobs[k]?).any q = (p.jobs[k]?).any q := by
  rw [getElem?_modify hj]
  split
  · subst k
    simp [hj, hf]
  · rfl

theorem exists_of_findIdx? {f : Job α → Bool} (h : p.jobs.findIdx? f = some i) :
    ∃ j, p.jobs[i]? = some j ∧ f j = true ∧
      ∀ k j', k < i → p.jobs[k]? = some j' → f j' = false := by
  obtain ⟨hi, hf, hbefore⟩ := List.findIdx?_eq_some_iff_getElem.mp h
  refine ⟨p.jobs[i], List.getElem?_eq_getElem hi, hf, ?_⟩
  intro k j' hk hj'
  obtain ⟨_, rfl⟩ := List.getElem?_eq_some_iff.mp hj'
  simpa using hbefore k hk

theorem le_of_findIdx? {f : Job α → Bool} (h : p.jobs.findIdx? f = some i)
    (hk : (p.jobs[k]?).any f = true) : i ≤ k := by
  obtain ⟨_, _, _, hbefore⟩ := exists_of_findIdx? h
  obtain ⟨j, hj, hf⟩ := (Option.any_eq_true _ _).mp hk
  refine Nat.le_of_not_lt fun hlt => ?_
  rw [hbefore k j hlt hj] at hf
  cases hf

theorem subject_of_make? {worker subject limit context}
    (h : Context.make? worker subject now limit = some context) : context.subject = subject := by
  cases limit with
  | none => cases h; rfl
  | some limit => obtain ⟨_, -, rfl⟩ := Option.map_eq_some_iff.mp h; rfl

/-! ## Steps -/

/-- Whether a move is one that a pool makes on its own and that ends no callback. -/
def Move.isInner : Move α → Bool
  | .refuse _ | .enqueue | .start | .expire _ => true
  | .call .. | .finish .. | .cancel | .close => false

def Move.isCall : Move α → Bool
  | .call .. => true
  | _ => false

/-- What can happen to a pool at an instant. -/
inductive Step (now : Instant) (p : Pool α) : Move α → Pool α → Prop where
  | called {worker subject limit work context} :
      Context.make? worker subject now limit = some context →
      Step now p (.call worker subject limit work)
        { p with jobs := p.jobs ++ [{ work, context, limit, stage := p.firstStage }] }
  | refused {i : Nat} {j : Job α} : p.cancelled = true → p.jobs[i]? = some j → j.stage = .waiting →
      Step now p (.refuse i) (p.setStage i (.refused .cancelled))
  | admitted {i : Nat} {j : Job α} : p.cancelled = false → p.queued < p.size →
      p.jobs.findIdx? Job.isWaiting = some i → p.jobs[i]? = some j → j.stage = .waiting →
      Step now p .enqueue (p.setStage i .queued)
  | started {i : Nat} {j : Job α} : p.running < p.size → p.jobs.findIdx? Job.isQueued = some i →
      p.jobs[i]? = some j → j.stage = .queued →
      Step now p .start (p.setStage i (.running now false))
  | expired {i : Nat} {j : Job α} {since limit} : p.jobs[i]? = some j →
      j.stage = .running since false → j.limit = some limit → since + limit.nanos ≤ now →
      Step now p (.expire i)
        (p.modify i fun j => { j with cancelled := true, stage := .running since true })
  | finished {i : Nat} {j : Job α} {since late failure} : p.jobs[i]? = some j →
      j.stage = .running since late →
      Step now p (.finish i failure) (p.setStage i (.ended (j.resultOf late failure)))
  | cancelled : Step now p .cancel { p with cancelled := true }
  | closed : Step now p .close { p with closed := true }

/-- What `step?` leads to is a step. -/
theorem step?_sound (h : p.step? now m = some p') : Step now p m p' := by
  cases m with
  | call worker subject limit work =>
      obtain ⟨context, hc, rfl⟩ := Option.map_eq_some_iff.mp h
      exact .called hc
  | refuse i =>
      simp only [step?] at h
      split at h
      · rename_i hg
        simp only [Bool.and_eq_true, Option.any_eq_true, Job.isWaiting, decide_eq_true_eq] at hg
        obtain ⟨hc, j, hj, hw⟩ := hg
        cases h
        exact .refused hc hj hw
      · cases h
  | enqueue =>
      simp only [step?] at h
      split at h
      · rename_i hg
        simp only [Bool.and_eq_true, Bool.not_eq_true', decide_eq_true_eq] at hg
        obtain ⟨i, hi, rfl⟩ := Option.map_eq_some_iff.mp h
        obtain ⟨j, hj, hw, -⟩ := exists_of_findIdx? hi
        exact .admitted hg.1 hg.2 hi hj (by simpa [Job.isWaiting] using hw)
      · cases h
  | start =>
      simp only [step?] at h
      split at h
      · obtain ⟨i, hi, rfl⟩ := Option.map_eq_some_iff.mp h
        obtain ⟨j, hj, hw, -⟩ := exists_of_findIdx? hi
        exact .started ‹_› hi hj (by simpa [Job.isQueued] using hw)
      · cases h
  | expire i =>
      simp only [step?] at h
      split at h
      · rename_i hj
        split at h
        · cases h
          exact .expired hj rfl rfl ‹_›
        · cases h
      · cases h
  | finish i failure =>
      simp only [step?] at h
      split at h
      · rename_i j hj
        split at h
        · rename_i hs
          cases h
          exact .finished hj hs
        · cases h
      · cases h
  | cancel => cases h; exact .cancelled
  | close => cases h; exact .closed

/-- A job can be noticed to be late from the instant on at which its time is up. -/
theorem canMove_expire {since : Instant} {limit : Span} (hj : p.jobs[i]? = some j)
    (hs : j.stage = .running since false) (hlimit : j.limit = some limit) :
    p.canMove now (.expire i) = decide (since + limit.nanos ≤ now) := by
  obtain ⟨work, context, _, cancelled, _⟩ := j
  cases hs
  cases hlimit
  by_cases hdue : since + limit.nanos ≤ now <;> simp [canMove, step?, hj, hdue]

/-- What becomes of a job in a step that begins no call: at most its stage changes, and whether it
was told to stop, and it does not begin to wait. -/
theorem Step.job_of_get (h : Step now p m p') (hm : m.isCall = false) (hj : p.jobs[i]? = some j) :
    ∃ j', p'.jobs[i]? = some j' ∧ j'.context = j.context ∧ j'.work = j.work ∧
      (j'.stage = .waiting → j.stage = .waiting) := by
  have hchange {k : Nat} {f : Job α → Job α} {q : Job α} (hq : p.jobs[k]? = some q)
      (hf : (f q).context = q.context ∧ (f q).work = q.work ∧
        ((f q).stage = .waiting → q.stage = .waiting)) :
      ∃ j', (p.modify k f).jobs[i]? = some j' ∧ j'.context = j.context ∧ j'.work = j.work ∧
        (j'.stage = .waiting → j.stage = .waiting) := by
    rw [getElem?_modify hq]
    split
    · subst k
      cases hq.symm.trans hj
      exact ⟨_, rfl, hf⟩
    · exact ⟨j, hj, rfl, rfl, id⟩
  cases h with
  | called => cases hm
  | refused _ hq _ | admitted _ _ _ hq _ | started _ _ hq _ | expired hq _ _ _ | finished hq _ =>
      exact hchange hq ⟨rfl, rfl, by simp⟩
  | cancelled | closed => exact ⟨j, hj, rfl, rfl, id⟩

theorem Step.length_eq (h : Step now p m p') (hm : m.isCall = false) :
    p'.jobs.length = p.jobs.length := by
  cases h with
  | called => cases hm
  | refused | admitted | started | expired | finished => exact length_modify _
  | cancelled | closed => rfl

/-- A pool keeps the jobs that it has. -/
theorem Step.length_le (h : Step now p m p') : p.jobs.length ≤ p'.jobs.length := by
  cases h <;> simp [setStage]

theorem Step.size_eq (h : Step now p m p') : p'.size = p.size := by
  cases h <;> rfl

theorem Step.closed_eq (h : Step now p m p') (hm : m.isInner = true) : p'.closed = p.closed := by
  cases h with
  | called | finished | cancelled | closed => cases hm
  | refused | admitted | started | expired => rfl

/-- A pool that moves on its own changes one job that is not over, ends none, and refuses only what
waits. -/
theorem Step.exists_change (h : Step now p m p') (hm : m.isInner = true) :
    ∃ (i : Nat) (j j' : Job α), p.jobs[i]? = some j ∧
      (∀ k, p'.jobs[k]? = if i = k then some j' else p.jobs[k]?) ∧
      j'.context = j.context ∧ j.isOver = false ∧ (∀ result, j'.stage ≠ .ended result) ∧
      (∀ why, j'.stage = .refused why → j.isWaiting = true) := by
  cases h with
  | called | finished | cancelled | closed => cases hm
  | @refused i j _ hj hs =>
      refine ⟨i, j, { j with stage := .refused .cancelled }, hj, fun k => getElem?_setStage hj, rfl,
        ?_, ?_, ?_⟩ <;> simp [Job.isOver, Job.isWaiting, hs]
  | @admitted i j _ _ _ hj hs =>
      refine ⟨i, j, { j with stage := .queued }, hj, fun k => getElem?_setStage hj, rfl, ?_, ?_, ?_⟩
        <;> simp [Job.isOver, hs]
  | @started i j _ _ hj hs =>
      refine ⟨i, j, { j with stage := .running now false }, hj, fun k => getElem?_setStage hj, rfl,
        ?_, ?_, ?_⟩ <;> simp [Job.isOver, hs]
  | @expired i j since _ hj hs _ _ =>
      refine ⟨i, j, { j with cancelled := true, stage := .running since true }, hj,
        fun k => getElem?_modify hj, rfl, ?_, ?_, ?_⟩ <;> simp [Job.isOver, hs]

end TaskQueue.Pool
