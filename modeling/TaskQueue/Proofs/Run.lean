/-!
# Runs

A machine is a partial function from a move and a state to the next state. A run is a list of
moves that can be made one after the other. What every move preserves, every run preserves.
-/

namespace TaskQueue

variable {μ σ : Type} {step? : μ → σ → Option σ} {s s' : σ} {ms ns : List μ}

/-- The state after a list of moves, if they can be made one after the other. -/
def after? (step? : μ → σ → Option σ) : List μ → σ → Option σ
  | [], s => some s
  | m :: ms, s => (step? m s).bind (after? step? ms)

@[simp] theorem after?_nil : after? step? [] s = some s := rfl

@[simp] theorem after?_singleton {m : μ} : after? step? [m] s = step? m s := by
  simp [after?]

theorem after?_cons {m : μ} :
    after? step? (m :: ms) s = some s' ↔ ∃ t, step? m s = some t ∧ after? step? ms t = some s' := by
  simp [after?, Option.bind_eq_some_iff]

theorem after?_append :
    after? step? (ms ++ ns) s = (after? step? ms s).bind (after? step? ns) := by
  induction ms generalizing s with
  | nil => rfl
  | cons m ms ih =>
      simp only [List.cons_append, after?]
      cases step? m s with
      | none => rfl
      | some t => exact ih

theorem after?_snoc {m : μ} :
    after? step? (ms ++ [m]) s = some s' ↔
      ∃ t, after? step? ms s = some t ∧ step? m t = some s' := by
  simp [after?_append, after?, Option.bind_eq_some_iff]

/-- What every move preserves, every run preserves. -/
theorem after?_preserves {P : σ → Prop}
    (hstep : ∀ {m s s'}, step? m s = some s' → P s → P s') :
    after? step? ms s = some s' → P s → P s' := by
  induction ms generalizing s with
  | nil =>
      intro h hs
      cases h
      exact hs
  | cons m ms ih =>
      intro h hs
      obtain ⟨t, hm, ht⟩ := after?_cons.mp h
      exact ih ht (hstep hm hs)

/-- What holds before the first move, and goes on to hold with each one, holds after a run. -/
theorem after?_induction {P : List μ → σ → Prop} (hnil : P [] s)
    (hsnoc : ∀ {ms m t t'}, after? step? ms s = some t → step? m t = some t' → P ms t →
      P (ms ++ [m]) t') :
    after? step? ms s = some s' → P ms s' := by
  suffices h : ∀ ns t, after? step? ns s = some t → P ns t → after? step? ms t = some s' →
      P (ns ++ ms) s' from h [] s rfl hnil
  induction ms with
  | nil =>
      intro ns t _ ht hr
      cases hr
      rwa [List.append_nil]
  | cons m ms ih =>
      intro ns t hns ht hr
      obtain ⟨t', hm, hr⟩ := after?_cons.mp hr
      have hmore := ih (ns ++ [m]) t' (after?_snoc.mpr ⟨t, hns, hm⟩) (hsnoc hns hm ht) hr
      rwa [List.append_assoc] at hmore

/-- A run from a start is found by making its moves. -/
theorem exists_run {ε : Type} {start : Except ε σ} {p : σ → Bool}
    (h : (start.toOption.bind (after? step? ms)).any p = true) :
    ∃ s s', start = .ok s ∧ after? step? ms s = some s' ∧ p s' = true := by
  obtain ⟨s', hrun, hp⟩ := (Option.any_eq_true _ _).mp h
  obtain ⟨s, hstart, hr⟩ := Option.bind_eq_some_iff.mp hrun
  refine ⟨s, s', ?_, hr, hp⟩
  cases start with
  | error e => cases hstart
  | ok s₁ => cases hstart; rfl

/-! ## What a run gathers -/

variable {β : Type} {gain : μ → σ → List β}

/-- What the moves of a run bring, each in the state that it is made in. -/
def gathered (step? : μ → σ → Option σ) (gain : μ → σ → List β) : List μ → σ → List β
  | [], _ => []
  | m :: ms, s => gain m s ++ ((step? m s).map (gathered step? gain ms)).getD []

@[simp] theorem gathered_singleton {m : μ} : gathered step? gain [m] s = gain m s := by
  cases hm : step? m s <;> simp [gathered, hm]

theorem gathered_cons {m : μ} (h : step? m s = some s') :
    gathered step? gain (m :: ms) s = gain m s ++ gathered step? gain ms s' := by
  simp [gathered, h]

theorem gathered_snoc {m : μ} (h : after? step? ms s = some s') :
    gathered step? gain (ms ++ [m]) s = gathered step? gain ms s ++ gain m s' := by
  induction ms generalizing s with
  | nil =>
      cases h
      simp [gathered]
  | cons n ms ih =>
      obtain ⟨t, hn, hr⟩ := after?_cons.mp h
      simp [gathered, hn, ih hr]

end TaskQueue
