import TaskQueue.Proofs.Manager.Call

/-!
# Careful bodies

The body of a transaction is careful when, whatever it hears, it stops at the first exchange that is
a failure and fails with it, and otherwise fails only for an argument of its own. Care is composed
along the text of the body; each query is one exchange.
-/

namespace TaskQueue

variable {α β : Type} {missing : Command → Option String} {allowed : Exchange → Prop}
  {own : Option OperationError} {Q : α → Prop} {R : β → Prop}

/-- An answer that has to be there, as the result of an operation. -/
def OperationError.present (thing : String) :
    Except DatabaseError (Option α) → Except OperationError α
  | .ok (some a) => .ok a
  | .ok none => .error (.notFound thing)
  | .error cause => .error (.ofDatabase cause)

theorem Action.found_asking (thing : String) (s : Statement)
    (read : Reply → Except DatabaseError (Option α)) :
    Action.found thing (Operation.asking s read) =
      Operation.asking s fun reply => OperationError.present thing (read reply) := by
  rw [Action.found, Action.ofQuery, Operation.mapError_asking, Operation.asking_bind]
  refine congrArg (Dialogue.ask (.run s)) (funext fun reply => ?_)
  change _ = Dialogue.done (OperationError.present thing (read reply))
  rcases read reply with e | _ | a <;> rfl

/-- What a careful body does in one conversation: `own` is the argument it fails for, if the
exchanges are well. -/
structure Followed (missing : Command → Option String) (allowed : Exchange → Prop)
    (own : Option OperationError) (Q : α → Prop) (log : List Exchange)
    (r : Except OperationError α) : Prop where
  allowed : ∀ e ∈ log, allowed e
  failure : causeOf? r = (log.findSome? (·.failure? missing)).or own
  value : ∀ a, r = .ok a → Q a

def Careful (missing : Command → Option String) (allowed : Exchange → Prop)
    (own : Option OperationError) (Q : α → Prop) (op : Action α) : Prop :=
  ∀ log r, op.Holds log r → Followed missing allowed own Q log r

namespace Careful

theorem pure {a : α} (h : Q a) : Careful missing allowed none Q (pure a : Action α) := by
  intro log r hlog
  obtain ⟨rfl, rfl⟩ := Operation.holds_pure.mp hlog
  exact ⟨by simp, rfl, by rintro _ ⟨⟩; exact h⟩

theorem throw {e : OperationError} :
    Careful missing allowed (some e) Q (throw e : Action α) := by
  intro log r hlog
  obtain ⟨rfl, rfl⟩ := Operation.holds_throw.mp hlog
  exact ⟨by simp, rfl, by rintro _ ⟨⟩⟩

theorem bind {op : Action α} {f : α → Action β} (h : Careful missing allowed none Q op)
    (hf : ∀ a, Q a → Careful missing allowed own R (f a)) :
    Careful missing allowed own R (op >>= f) := by
  intro log r hlog
  obtain ⟨e, rfl, hop⟩ | ⟨a, first, rest, rfl, hop, hrest⟩ := Operation.holds_bind.mp hlog
  · obtain ⟨hallowed, hfailure, -⟩ := h _ _ hop
    refine ⟨hallowed, ?_, by rintro _ ⟨⟩⟩
    rw [Option.or_none] at hfailure
    rw [← hfailure]
    rfl
  · obtain ⟨hfirst, hgood, hvalue⟩ := h _ _ hop
    obtain ⟨hallowed, hfailure, hR⟩ := hf a (hvalue a rfl) _ _ hrest
    refine ⟨fun e he => (List.mem_append.mp he).elim (hfirst e) (hallowed e), ?_, hR⟩
    rw [Option.or_none] at hgood
    rw [List.findSome?_append, ← hgood, hfailure]
    rfl

theorem weaken {P : α → Prop} {op : Action α} (h : Careful missing allowed own Q op)
    (hQ : ∀ a, Q a → P a) : Careful missing allowed own P op := by
  intro log r hlog
  obtain ⟨hallowed, hfailure, hvalue⟩ := h log r hlog
  exact ⟨hallowed, hfailure, fun a ha => hQ a (hvalue a ha)⟩

section Asking

variable {s : Statement} (hallowed : ∀ reply, allowed ⟨.run s, reply⟩)

include hallowed

theorem asking {read : Reply → Except OperationError α}
    (hfailure : ∀ reply, Exchange.failure? missing ⟨.run s, reply⟩ = causeOf? (read reply))
    (hQ : ∀ reply a, read reply = .ok a → Q a) :
    Careful missing allowed none Q (Operation.asking s read) := by
  intro log r hlog
  obtain ⟨reply, rfl, rfl⟩ := Operation.holds_asking.mp hlog
  refine ⟨by simpa using hallowed reply, ?_, hQ reply⟩
  rw [Option.or_none, List.findSome?_singleton, hfailure]

variable {read : Reply → Except DatabaseError α}

/-- A query whose answer is always there, or is not needed. -/
theorem query {f : α → Bool}
    (hanswer : ∀ reply, s.command.answer reply = (read reply).map f)
    (hneeded : (∀ a, f a = true) ∨ missing s.command = none)
    (hQ : ∀ reply a, read reply = .ok a → Q a) :
    Careful missing allowed none Q (Action.ofQuery (Operation.asking s read)) := by
  rw [Action.ofQuery, Operation.mapError_asking]
  refine asking hallowed (fun reply => ?_) fun reply a ha => ?_
  · simp only [Exchange.failure?, hanswer]
    cases read reply with
    | error e => rfl
    | ok a =>
        cases hf : f a with
        | true => simp only [Except.map, hf]; rfl
        | false =>
            have hnone : missing s.command = none :=
              hneeded.resolve_left fun hall => Bool.false_ne_true (hf.symm.trans (hall a))
            simp only [Except.map, hf, hnone]
            rfl
  · cases hread : read reply with
    | error e => rw [hread] at ha; cases ha
    | ok b =>
        rw [hread] at ha
        cases ha
        exact hQ reply _ hread

/-- A query whose answer has to be there. -/
theorem found {read : Reply → Except DatabaseError (Option α)} {thing : String}
    (hanswer : ∀ reply, s.command.answer reply = (read reply).map Option.isSome)
    (hmissing : missing s.command = some thing)
    (hQ : ∀ reply a, read reply = .ok (some a) → Q a) :
    Careful missing allowed none Q (Action.found thing (Operation.asking s read)) := by
  rw [Action.found_asking]
  refine asking hallowed (fun reply => ?_) fun reply a ha => ?_
  · simp only [Exchange.failure?, hanswer, hmissing]
    rcases read reply with e | _ | a <;> rfl
  · refine hQ reply a ?_
    rcases hread : read reply with e | _ | b
    case ok.some => simpa [hread, OperationError.present] using ha
    all_goals simp [hread, OperationError.present] at ha

end Asking

end Careful

end TaskQueue
