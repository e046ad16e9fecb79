import TaskQueue.Manager.Tasks

/-!
# What dialogues ask

A dialogue is led by the replies it hears. When they are used up before its end, its connection is
lost in the middle. What a dialogue may ask at all is read off its text, one combinator at a time,
and bounds what it asks in any exchange.
-/

namespace TaskQueue

variable {α β ε : Type} {P : Request → Prop}

namespace Dialogue

/-- What a dialogue asks while it hears some replies in order, and its end if they suffice. -/
def hear : Dialogue α → List Reply → List Request × Option α
  | done a, _ => ([], some a)
  | ask request _, [] => ([request], none)
  | ask request next, reply :: replies =>
    let (asked, a) := hear (next reply) replies
    (request :: asked, a)

/-- Whatever it hears, a dialogue asks nothing but what satisfies `P`. -/
def Asks (P : Request → Prop) : Dialogue α → Prop
  | done _ => True
  | ask request next => P request ∧ ∀ reply, Asks P (next reply)

theorem Asks.hear {d : Dialogue α} (h : d.Asks P) (replies : List Reply) :
    ∀ r ∈ (d.hear replies).1, P r := by
  induction d generalizing replies with
  | done a => simp [Dialogue.hear]
  | ask request next ih =>
      cases replies with
      | nil => simpa [Dialogue.hear] using h.1
      | cons reply replies =>
          intro r hr
          rcases List.mem_cons.mp hr with rfl | hr
          · exact h.1
          · exact ih reply (h.2 reply) replies r hr

theorem Asks.bind {d : Dialogue α} {f : α → Dialogue β} (h : d.Asks P)
    (hf : ∀ a, (f a).Asks P) : (d >>= f).Asks P := by
  induction d with
  | done a => exact hf a
  | ask request next ih => exact ⟨h.1, fun reply => ih reply (h.2 reply)⟩

theorem Asks.map {d : Dialogue α} {f : α → β} (h : d.Asks P) : (f <$> d).Asks P :=
  h.bind fun _ => trivial

theorem Asks.request {r : Request} (h : P r) : (Dialogue.request r).Asks P :=
  ⟨h, fun _ => trivial⟩

theorem hear_map (d : Dialogue α) (f : α → β) (replies : List Reply) :
    ((f <$> d).hear replies).1 = (d.hear replies).1 := by
  induction d generalizing replies with
  | done a => rfl
  | ask request next ih =>
      cases replies with
      | nil => rfl
      | cons reply replies => exact congrArg (request :: ·) (ih reply replies)

theorem run_map {σ : Type} (server : Server σ) (d : Dialogue α) (f : α → β) (s : σ) :
    ((f <$> d).run server s).result = f (d.run server s).result := by
  induction d generalizing s with
  | done a => rfl
  | ask request next ih => exact ih (server request s).1 (server request s).2

theorem log_map {σ : Type} (server : Server σ) (d : Dialogue α) (f : α → β) (s : σ) :
    ((f <$> d).run server s).log = (d.run server s).log := by
  induction d generalizing s with
  | done a => rfl
  | ask request next ih =>
      exact congrArg (request :: ·) (ih (server request s).1 (server request s).2)

/-- What a dialogue asks first is `r`, and what it asks then satisfies `P`. -/
def Begins (r : Request) (P : Request → Prop) : Dialogue α → Prop
  | done _ => False
  | ask request next => request = r ∧ ∀ reply, Asks P (next reply)

theorem Begins.bind {r : Request} {d : Dialogue α} {f : α → Dialogue β} (h : d.Begins r P)
    (hf : ∀ a, (f a).Asks P) : (d >>= f).Begins r P := by
  cases d with
  | done a => exact h.elim
  | ask request next => exact ⟨h.1, fun reply => .bind (h.2 reply) hf⟩

theorem Begins.hear {r : Request} {d : Dialogue α} (h : d.Begins r P) (replies : List Reply) :
    ∃ rest, (d.hear replies).1 = r :: rest ∧ ∀ q ∈ rest, P q := by
  cases d with
  | done a => exact h.elim
  | ask request next =>
      obtain ⟨rfl, hnext⟩ := h
      cases replies with
      | nil => exact ⟨[], rfl, by simp⟩
      | cons reply replies => exact ⟨_, rfl, (hnext reply).hear replies⟩

/-- Against any server a dialogue ends as it does with the replies of that server. -/
theorem exists_hear_run {σ : Type} (server : Server σ) (d : Dialogue α) (s : σ) :
    ∃ replies, d.hear replies = ((d.run server s).log, some (d.run server s).result) := by
  induction d generalizing s with
  | done a => exact ⟨[], rfl⟩
  | ask request next ih =>
      obtain ⟨replies, h⟩ := ih (server request s).1 (server request s).2
      exact ⟨(server request s).1 :: replies, by simp [Dialogue.hear, Dialogue.run, h]⟩

end Dialogue

namespace Operation

def Asks (P : Request → Prop) (op : Operation ε α) : Prop := Dialogue.Asks P op.run

theorem Asks.pure {a : α} : Asks P (pure a : Operation ε α) := trivial

theorem Asks.throw {e : ε} : Asks P (throw e : Operation ε α) := trivial

theorem Asks.ofExcept {r : Except ε α} : Asks P (ofExcept r) := trivial

theorem Asks.bind {op : Operation ε α} {f : α → Operation ε β} (h : Asks P op)
    (hf : ∀ a, Asks P (f a)) : Asks P (op >>= f) := by
  refine Dialogue.Asks.bind h fun r => ?_
  cases r with
  | ok a => exact hf a
  | error e => trivial

theorem Asks.map {op : Operation ε α} {f : α → β} (h : Asks P op) : Asks P (f <$> op) := by
  refine Dialogue.Asks.bind h fun r => ?_
  cases r <;> trivial

theorem Asks.mapError {δ : Type} {f : ε → δ} {op : Operation ε α} (h : Asks P op) :
    Asks P (op.mapError f) := by
  refine Dialogue.Asks.bind h fun r => ?_
  cases r <;> trivial

theorem Asks.orFail {cause : ε} {a : Option α} : Asks P (orFail cause a) := by
  cases a <;> trivial

/-- After its body a transaction asks how to end. -/
theorem asks_ending (ofDatabase : DatabaseError → ε) (hcommit : P .commit)
    (hrollback : P .rollback) (r : Except ε (Verdict α)) :
    Dialogue.Asks P (do
      match r with
      | .error e =>
        let _ ← Dialogue.request .rollback
        return Except.error e
      | .ok (.discard a) =>
        let _ ← Dialogue.request .rollback
        return Except.ok a
      | .ok (.keep a) =>
        match ← Dialogue.request .commit with
        | .failed code message =>
          let _ ← Dialogue.request .rollback
          return Except.error (ofDatabase (.refused code message))
        | _ => return Except.ok a) := by
  have hroll (r : Except ε α) :
      Dialogue.Asks P (do let _ ← Dialogue.request .rollback; return r) :=
    .bind (.request hrollback) fun _ => trivial
  cases r with
  | error e => exact hroll _
  | ok verdict =>
      cases verdict with
      | discard a => exact hroll _
      | keep a =>
          refine Dialogue.Asks.bind (.request hcommit) fun reply => ?_
          cases reply with
          | failed code message => exact hroll _
          | rows _ | affected _ => trivial

/-- A transaction asks what its body asks, besides where it begins and how it ends. -/
theorem Asks.transaction {ofDatabase : DatabaseError → ε} {body : Operation ε (Verdict α)}
    (hbegin : P .begin) (hcommit : P .commit) (hrollback : P .rollback) (h : Asks P body) :
    Asks P (transaction ofDatabase body) := by
  refine Dialogue.Asks.bind (.request hbegin) fun reply => ?_
  cases reply with
  | failed code message => trivial
  | rows _ | affected _ => exact Dialogue.Asks.bind h (asks_ending ofDatabase hcommit hrollback)

def Begins (r : Request) (P : Request → Prop) (op : Operation ε α) : Prop :=
  Dialogue.Begins r P op.run

theorem Begins.bind {r : Request} {op : Operation ε α} {f : α → Operation ε β}
    (h : Begins r P op) (hf : ∀ a, Asks P (f a)) : Begins r P (op >>= f) := by
  refine Dialogue.Begins.bind h fun r => ?_
  cases r with
  | ok a => exact hf a
  | error e => trivial

theorem Begins.mapError {r : Request} {δ : Type} {f : ε → δ} {op : Operation ε α}
    (h : Begins r P op) : Begins r P (op.mapError f) := by
  refine Dialogue.Begins.bind h fun r => ?_
  cases r <;> trivial

/-- A transaction that can begin goes on with what its body asks first. -/
theorem Begins.transaction {r : Request} {ofDatabase : DatabaseError → ε}
    {body : Operation ε (Verdict α)} (h : Begins r P body) (hcommit : P .commit)
    (hrollback : P .rollback) (replies : List Reply) :
    ((transaction ofDatabase body).run.hear replies).1 = [.begin] ∨
      ∃ rest, ((transaction ofDatabase body).run.hear replies).1 = .begin :: r :: rest ∧
        ∀ q ∈ rest, P q := by
  have hending := asks_ending (α := α) ofDatabase hcommit hrollback
  have hbody := (Dialogue.Begins.bind h hending).hear
  rcases replies with _ | ⟨_ | _ | ⟨code, message⟩, replies⟩
  case nil => exact .inl rfl
  case cons.failed => exact .inl rfl
  all_goals
    obtain ⟨rest, hasked, hrest⟩ := hbody replies
    exact .inr ⟨rest, congrArg (Request.begin :: ·) hasked, hrest⟩

end Operation

namespace Query

variable {s : Statement}

theorem asks_send (h : P (.run s)) : Operation.Asks P (send s) := by
  refine Dialogue.Asks.bind (.request h) fun reply => ?_
  cases reply <;> trivial

theorem asks_rows (h : P (.run s)) : Operation.Asks P (rows s) := by
  refine Operation.Asks.bind (asks_send h) fun reply => ?_
  cases reply <;> trivial

theorem asks_fetchOne {read : RowReader α} (h : P (.run s)) :
    Operation.Asks P (fetchOne s read) := by
  refine Operation.Asks.bind (asks_rows h) fun rows => ?_
  cases rows <;> trivial

theorem asks_fetchOptional {read : RowReader α} (h : P (.run s)) :
    Operation.Asks P (fetchOptional s read) := by
  refine Operation.Asks.bind (asks_rows h) fun rows => ?_
  cases rows with
  | nil => trivial
  | cons row _ => exact Operation.Asks.map .ofExcept

theorem begins_fetchOne {read : RowReader α} : Operation.Begins (.run s) P (fetchOne s read) := by
  have hsend : Operation.Begins (.run s) P (send s) := by
    refine Dialogue.Begins.bind ⟨rfl, fun _ => trivial⟩ fun reply => ?_
    cases reply <;> trivial
  refine .bind (.bind hsend fun reply => ?_) fun rows => ?_
  · cases reply <;> trivial
  · cases rows <;> trivial

end Query

namespace Manager

/-- The commands that claim a task or give one back name the worker of the manager, and what is
given back is the task `id`. -/
def Tends (m : Manager) (id : Option Int64) : Request → Prop
  | .run ⟨_, .lockTask ns worker⟩ => ns = m.ns ∧ worker = m.worker
  | .run ⟨_, .returnTask ns i worker⟩ => ns = m.ns ∧ some i = id ∧ worker = m.worker
  | _ => True

theorem asks_retainTask (m : Manager) : m.retainTask.Asks (m.Tends none) := by
  unfold Manager.retainTask Manager.retainTaskAs
  split
  · trivial
  · refine .transaction trivial trivial trivial ?_
    refine .bind (.mapError (Query.asks_fetchOne ⟨rfl, rfl⟩)) fun id => ?_
    cases id with
    | none => trivial
    | some id => exact .bind (.mapError (Query.asks_fetchOptional trivial)) fun _ => trivial

theorem asks_returnTask (m : Manager) (id : Int64) :
    (m.returnTask id).Asks (m.Tends (some id)) := by
  refine .transaction trivial trivial trivial ?_
  refine .bind ?_ fun _ => .bind ?_ fun _ => trivial
  · exact .bind (.mapError (Query.asks_fetchOne ⟨rfl, rfl, rfl⟩)) fun _ => .orFail
  · exact .bind (.mapError (Query.asks_fetchOptional trivial)) fun _ => .orFail

end Manager

end TaskQueue
