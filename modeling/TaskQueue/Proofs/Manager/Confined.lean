import TaskQueue.Proofs.Manager.CleanupTicker

/-!
# Confined actions

An action is confined when every statement that it makes is a fine one and what it comes to is good.
What is good may depend on what was answered, so an action is confined within a whole conversation
that its own is a part of. Confinement is composed along the text of the action.
-/

namespace TaskQueue

variable {α β : Type} {whole : List Exchange} {fine : Statement → Prop} {Q : α → Prop}
  {R : β → Prop}

def Confined (whole : List Exchange) (fine : Statement → Prop) (Q : α → Prop)
    (op : Action α) : Prop :=
  ∀ log r, op.Holds log r → log ⊆ whole →
    (∀ e ∈ log, ∀ s, e.request = .run s → fine s) ∧ ∀ a, r = .ok a → Q a

namespace Confined

theorem pure {a : α} (h : Q a) : Confined whole fine Q (pure a : Action α) := by
  rintro log r hlog -
  obtain ⟨rfl, rfl⟩ := Operation.holds_pure.mp hlog
  exact ⟨by simp, by rintro _ ⟨⟩; exact h⟩

theorem throw {e : OperationError} : Confined whole fine Q (throw e : Action α) := by
  rintro log r hlog -
  obtain ⟨rfl, rfl⟩ := Operation.holds_throw.mp hlog
  exact ⟨by simp, by rintro _ ⟨⟩⟩

theorem ofExcept {x : Except OperationError α} (h : ∀ a, x = .ok a → Q a) :
    Confined whole fine Q (Operation.ofExcept x) := by
  cases x with
  | ok a => exact pure (h a rfl)
  | error e => exact throw

theorem orFail {cause : OperationError} {a? : Option α} (h : ∀ a, a? = some a → Q a) :
    Confined whole fine Q (Operation.orFail cause a?) := by
  cases a? with
  | some a => exact pure (h a rfl)
  | none => exact throw

theorem bind {op : Action α} {f : α → Action β} (h : Confined whole fine Q op)
    (hf : ∀ a, Q a → Confined whole fine R (f a)) : Confined whole fine R (op >>= f) := by
  intro log r hlog hwhole
  obtain ⟨e, rfl, hop⟩ | ⟨a, first, rest, rfl, hop, hrest⟩ := Operation.holds_bind.mp hlog
  · exact ⟨(h _ _ hop hwhole).1, by rintro _ ⟨⟩⟩
  · obtain ⟨hfirst, hlast⟩ := List.append_subset.mp hwhole
    obtain ⟨hfine, hvalue⟩ := h _ _ hop hfirst
    obtain ⟨hfine', hR⟩ := hf a (hvalue a rfl) _ _ hrest hlast
    exact ⟨fun e he => (List.mem_append.mp he).elim (hfine e) (hfine' e), hR⟩

section Queries

variable {s : Statement} (hfine : fine s)

include hfine

theorem asking {read : Reply → Except OperationError α}
    (hQ : ∀ reply a, ⟨.run s, reply⟩ ∈ whole → read reply = .ok a → Q a) :
    Confined whole fine Q (Operation.asking s read) := by
  intro log r hlog hwhole
  obtain ⟨reply, rfl, rfl⟩ := Operation.holds_asking.mp hlog
  refine ⟨fun e he s' hs' => ?_, fun a => hQ reply a (hwhole (List.mem_singleton_self _))⟩
  obtain rfl := List.mem_singleton.mp he
  cases hs'
  exact hfine

theorem query {q : Query α} {read : Reply → Except DatabaseError α}
    (hq : q = Operation.asking s read)
    (hQ : ∀ reply a, ⟨.run s, reply⟩ ∈ whole → read reply = .ok a → Q a) :
    Confined whole fine Q (Action.ofQuery q) := by
  rw [hq, Action.ofQuery, Operation.mapError_asking]
  refine asking hfine fun reply a hreply ha => ?_
  cases hread : read reply with
  | error e => rw [hread] at ha; cases ha
  | ok b =>
      rw [hread] at ha
      cases ha
      exact hQ reply _ hreply hread

theorem found {q : Query (Option α)} {thing : String}
    {read : Reply → Except DatabaseError (Option α)} (hq : q = Operation.asking s read)
    (hQ : ∀ reply a, ⟨.run s, reply⟩ ∈ whole → read reply = .ok (some a) → Q a) :
    Confined whole fine Q (Action.found thing q) :=
  bind (Q := fun a? => ∀ a, a? = some a → Q a)
    (query hfine hq fun reply _ hreply hread a ha => hQ reply a hreply (ha ▸ hread)) fun _ => orFail

end Queries

/-- A transaction makes the statements of its body. -/
theorem transaction {body : Action (Operation.Verdict α)}
    (h : Confined whole fine (fun _ => True) body) :
    Confined whole fine (fun _ => True) (Action.transaction body) := by
  intro log r hlog hwhole
  refine ⟨?_, fun _ _ => trivial⟩
  obtain ⟨code, message, rfl, -⟩ | ⟨opening, inner, v, ending, rfl, -, hinner, hends⟩ :=
    Operation.holds_transaction hlog
  · rintro e he s hs
    obtain rfl := List.mem_singleton.mp he
    cases hs
  · have hsub : inner ⊆ whole := fun e he => hwhole (by simp [he])
    have hending : ∀ e ∈ ending, ∀ s, e.request ≠ .run s := by
      cases hends <;> simp
    intro e he s hs
    rcases List.mem_cons.mp he with rfl | he
    · cases hs
    · rcases List.mem_append.mp he with he | he
      · exact (h _ _ hinner hsub).1 e he s hs
      · exact absurd hs (hending e he s)

end Confined

end TaskQueue
