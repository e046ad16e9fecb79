import TaskQueue.Database.Query

/-!
# Conversations

A conversation is what is said between a dialogue and a server, from the first request to the end.
A dialogue holds it when each request is the one that the dialogue makes there; the replies are
free. What a dialogue can say is read off its text: a sequence of dialogues splits the conversation,
a query is one statement and a reading of its reply, and a transaction is its body between a
beginning and an ending.
-/

namespace TaskQueue

variable {α β ε : Type} {log : List Exchange}

structure Exchange where
  request : Request
  reply : Reply

def Reply.isFailed : Reply → Bool
  | failed _ _ => true
  | _ => false

namespace Dialogue

theorem bind_done (d : Dialogue α) : d.bind done = d := by
  induction d with
  | done a => rfl
  | ask request next ih => exact congrArg (ask request) (funext ih)

theorem bind_assoc {γ : Type} (d : Dialogue α) (f : α → Dialogue β) (g : β → Dialogue γ) :
    (d.bind f).bind g = d.bind fun a => (f a).bind g := by
  induction d with
  | done a => rfl
  | ask request next ih => exact congrArg (ask request) (funext ih)

instance : LawfulMonad Dialogue :=
  LawfulMonad.mk' Dialogue bind_done (fun _ _ => rfl) bind_assoc

inductive Holds : Dialogue α → List Exchange → α → Prop
  | done {a : α} : Holds (done a) [] a
  | ask {request : Request} {next : Reply → Dialogue α} {reply : Reply} {log : List Exchange}
      {a : α} : Holds (next reply) log a → Holds (ask request next) (⟨request, reply⟩ :: log) a

/-- What is said when a dialogue is run against a server. -/
def said {σ : Type} (server : Server σ) : Dialogue α → σ → List Exchange
  | done _, _ => []
  | ask request next, s =>
    let (reply, s) := server request s
    ⟨request, reply⟩ :: said server (next reply) s

section Said

variable {σ : Type} (server : Server σ) (d : Dialogue α) (s : σ)

theorem holds_said : d.Holds (d.said server s) (d.run server s).result := by
  induction d generalizing s with
  | done a => exact .done
  | ask request next ih => exact .ask (ih (server request s).1 (server request s).2)

theorem map_request_said : (d.said server s).map (·.request) = (d.run server s).log := by
  induction d generalizing s with
  | done a => rfl
  | ask request next ih =>
      exact congrArg (request :: ·) (ih (server request s).1 (server request s).2)

end Said

theorem holds_done {a b : α} : (done a).Holds log b ↔ log = [] ∧ b = a := by
  constructor
  · rintro ⟨⟩
    exact ⟨rfl, rfl⟩
  · rintro ⟨rfl, rfl⟩
    exact .done

theorem holds_ask {request : Request} {next : Reply → Dialogue α} {a : α} :
    (ask request next).Holds log a ↔
      ∃ reply rest, log = ⟨request, reply⟩ :: rest ∧ (next reply).Holds rest a := by
  constructor
  · rintro ⟨⟩
    exact ⟨_, _, rfl, ‹_›⟩
  · rintro ⟨reply, rest, rfl, h⟩
    exact .ask h

theorem holds_request {r : Request} {reply : Reply} :
    (request r).Holds log reply ↔ log = [⟨r, reply⟩] := by
  constructor
  · intro h
    obtain ⟨_, rest, rfl, hrest⟩ := holds_ask.mp h
    obtain ⟨rfl, rfl⟩ := holds_done.mp hrest
    rfl
  · rintro rfl
    exact .ask .done

theorem holds_bind {d : Dialogue α} {f : α → Dialogue β} {b : β} :
    (d >>= f).Holds log b ↔
      ∃ a first rest, log = first ++ rest ∧ d.Holds first a ∧ (f a).Holds rest b := by
  constructor
  · intro h
    induction d generalizing log with
    | done a => exact ⟨a, [], log, rfl, .done, h⟩
    | ask request next ih =>
        obtain ⟨reply, rest, rfl, hrest⟩ := holds_ask.mp h
        obtain ⟨a, first, rest, rfl, hd, hf⟩ := ih reply hrest
        exact ⟨a, ⟨request, reply⟩ :: first, rest, rfl, .ask hd, hf⟩
  · rintro ⟨a, first, rest, rfl, hd, hf⟩
    induction hd with
    | done => exact hf
    | ask _ ih => exact .ask (ih hf)

end Dialogue

namespace Operation

/-- An operation holds a conversation that comes to a value or a failure. -/
def Holds (op : Operation ε α) (log : List Exchange) (r : Except ε α) : Prop :=
  Dialogue.Holds op.run log r

variable {r : Except ε α}

theorem holds_pure {a : α} : (pure a : Operation ε α).Holds log r ↔ log = [] ∧ r = .ok a :=
  Dialogue.holds_done

theorem holds_throw {e : ε} :
    (throw e : Operation ε α).Holds log r ↔ log = [] ∧ r = .error e :=
  Dialogue.holds_done

/-- A sequence fails in its first part, or its first part has a value and the second goes on. -/
theorem holds_bind {op : Operation ε α} {f : α → Operation ε β} {r : Except ε β} :
    (op >>= f).Holds log r ↔
      (∃ e, r = .error e ∧ op.Holds log (.error e)) ∨
      ∃ a first rest, log = first ++ rest ∧ op.Holds first (.ok a) ∧ (f a).Holds rest r := by
  refine Dialogue.holds_bind.trans ⟨?_, ?_⟩
  · rintro ⟨x, first, rest, rfl, hop, hf⟩
    cases x with
    | error e =>
        obtain ⟨rfl, rfl⟩ := Dialogue.holds_done.mp hf
        exact .inl ⟨e, rfl, by rwa [List.append_nil]⟩
    | ok a => exact .inr ⟨a, first, rest, rfl, hop, hf⟩
  · rintro (⟨e, rfl, hop⟩ | ⟨a, first, rest, rfl, hop, hf⟩)
    · exact ⟨.error e, log, [], by simp, hop, .done⟩
    · exact ⟨.ok a, first, rest, rfl, hop, hf⟩

theorem holds_bind_ok {op : Operation ε α} {f : α → Operation ε β} {b : β} :
    (op >>= f).Holds log (.ok b) ↔
      ∃ a first rest, log = first ++ rest ∧ op.Holds first (.ok a) ∧ (f a).Holds rest (.ok b) := by
  simp [holds_bind]

/-- The operation that sends one statement and makes a result of the reply. -/
def asking (s : Statement) (read : Reply → Except ε α) : Operation ε α :=
  ExceptT.mk (.ask (.run s) fun reply => .done (read reply))

variable {s : Statement} {read : Reply → Except ε α}

theorem holds_asking :
    (asking s read).Holds log r ↔ ∃ reply, log = [⟨.run s, reply⟩] ∧ r = read reply := by
  refine Dialogue.holds_ask.trans ⟨?_, ?_⟩
  · rintro ⟨reply, rest, rfl, h⟩
    obtain ⟨rfl, rfl⟩ := Dialogue.holds_done.mp h
    exact ⟨reply, rfl, rfl⟩
  · rintro ⟨reply, rfl, rfl⟩
    exact ⟨reply, [], rfl, .done⟩

theorem asking_bind (f : α → Operation ε β) :
    asking s read >>= f =
      ExceptT.mk (.ask (.run s) fun reply => (ofExcept (read reply) >>= f).run) := by
  rfl

theorem mapError_asking {δ : Type} (f : ε → δ) :
    (asking s read).mapError f = asking s fun reply => (read reply).mapError f := by
  refine congrArg ExceptT.mk (congrArg (Dialogue.ask (.run s)) (funext fun reply => ?_))
  change Dialogue.bind (.done (read reply)) _ = .done ((read reply).mapError f)
  cases read reply <;> rfl

theorem holds_mapError {δ : Type} {f : ε → δ} {op : Operation ε α} {r : Except δ α} :
    (op.mapError f).Holds log r ↔ ∃ r', op.Holds log r' ∧ r = r'.mapError f := by
  refine Dialogue.holds_bind.trans ⟨?_, ?_⟩
  · rintro ⟨r', first, rest, rfl, hop, hrest⟩
    cases r' with
    | ok a =>
        obtain ⟨rfl, rfl⟩ := Dialogue.holds_done.mp hrest
        exact ⟨.ok a, by rwa [List.append_nil], rfl⟩
    | error e =>
        obtain ⟨rfl, rfl⟩ := Dialogue.holds_done.mp hrest
        exact ⟨.error e, by rwa [List.append_nil], rfl⟩
  · rintro ⟨r', hop, rfl⟩
    refine ⟨r', log, [], by simp, hop, ?_⟩
    cases r' <;> exact .done

/-- How a transaction ends after its body: what is said, and what comes of it. -/
inductive Ends (ofDatabase : DatabaseError → ε) :
    Except ε (Verdict α) → List Exchange → Except ε α → Prop
  | failed {e : ε} {reply : Reply} : Ends ofDatabase (.error e) [⟨.rollback, reply⟩] (.error e)
  | discarded {a : α} {reply : Reply} :
      Ends ofDatabase (.ok (.discard a)) [⟨.rollback, reply⟩] (.ok a)
  | kept {a : α} {reply : Reply} (h : reply.isFailed = false) :
      Ends ofDatabase (.ok (.keep a)) [⟨.commit, reply⟩] (.ok a)
  | refused {a : α} {code message : String} {reply : Reply} :
      Ends ofDatabase (.ok (.keep a)) [⟨.commit, .failed code message⟩, ⟨.rollback, reply⟩]
        (.error (ofDatabase (.refused code message)))

theorem holds_rollback {r' : Except ε α}
    (h : Dialogue.Holds (do let _ ← Dialogue.request .rollback; return r') log r) :
    ∃ reply, log = [⟨.rollback, reply⟩] ∧ r = r' := by
  obtain ⟨reply, rest, rfl, hrest⟩ := Dialogue.holds_ask.mp h
  obtain ⟨rfl, rfl⟩ := Dialogue.holds_done.mp hrest
  exact ⟨reply, rfl, rfl⟩

theorem ends_of_holds {ofDatabase : DatabaseError → ε} {v : Except ε (Verdict α)}
    (h : Dialogue.Holds (do
      match v with
      | .error e =>
        let _ ← Dialogue.request .rollback
        return Except.error e
      | .ok (.discard a) =>
        let _ ← Dialogue.request .rollback
        return Except.ok a
      | .ok (.keep a) =>
        match ← Dialogue.request .commit with
        | .failed code message =>
          let _ ← Dialogue.request .rollback
          return Except.error (ofDatabase (.refused code message))
        | _ => return Except.ok a) log r) :
    Ends ofDatabase v log r := by
  rcases v with e | a | a
  · obtain ⟨reply, rfl, rfl⟩ := holds_rollback h
    exact .failed
  · obtain ⟨reply, rest, rfl, hrest⟩ := Dialogue.holds_ask.mp h
    rcases reply with _ | _ | ⟨code, message⟩
    case failed =>
      obtain ⟨reply, rfl, rfl⟩ := holds_rollback hrest
      exact .refused
    all_goals
      obtain ⟨rfl, rfl⟩ := Dialogue.holds_done.mp hrest
      exact .kept rfl
  · obtain ⟨reply, rfl, rfl⟩ := holds_rollback h
    exact .discarded

/-- A transaction that cannot begin ends there; one that begins says what its body says, and then
how it ends. -/
theorem holds_transaction {ofDatabase : DatabaseError → ε} {body : Operation ε (Verdict α)}
    (h : (transaction ofDatabase body).Holds log r) :
    (∃ code message, log = [⟨.begin, .failed code message⟩] ∧
      r = .error (ofDatabase (.refused code message))) ∨
    ∃ opening inner v ending, log = ⟨.begin, opening⟩ :: (inner ++ ending) ∧
      opening.isFailed = false ∧ body.Holds inner v ∧ Ends ofDatabase v ending r := by
  obtain ⟨opening, first, rest, rfl, hbegin, hrest⟩ := Dialogue.holds_bind.mp h
  obtain rfl := Dialogue.holds_request.mp hbegin
  rcases opening with _ | _ | ⟨code, message⟩
  case failed =>
    obtain ⟨rfl, rfl⟩ := Dialogue.holds_done.mp hrest
    exact .inl ⟨code, message, rfl, rfl⟩
  all_goals
    obtain ⟨v, inner, ending, rfl, hinner, hending⟩ := Dialogue.holds_bind.mp hrest
    exact .inr ⟨_, inner, v, ending, rfl, rfl, hinner, ends_of_holds hending⟩

end Operation

/-! ## The readings of a reply -/

namespace Reply

def toRows : Reply → Except DatabaseError (List Row)
  | .rows table => .ok table
  | .affected _ => .ok []
  | .failed code message => .error (.refused code message)

def changed : Reply → Except DatabaseError Bool
  | .rows _ => .ok false
  | .affected count => .ok (0 < count)
  | .failed code message => .error (.refused code message)

def all (read : RowReader α) (reply : Reply) : Except DatabaseError (List α) := do
  (← reply.toRows).mapM read

def optional (read : RowReader α) (reply : Reply) : Except DatabaseError (Option α) := do
  match ← reply.toRows with
  | [] => return none
  | row :: _ => some <$> read row

def one (read : RowReader α) (reply : Reply) : Except DatabaseError α := do
  match ← reply.toRows with
  | [] => throw .rowNotFound
  | row :: _ => read row

theorem exists_row_of_optional {read : RowReader α} {reply : Reply} {a : α}
    (h : reply.optional read = .ok (some a)) : ∃ row, read row = .ok a := by
  unfold optional at h
  rcases hrows : reply.toRows with e | _ | ⟨row, rows⟩ <;> rw [hrows] at h
  · cases h
  · cases h
  · refine ⟨row, ?_⟩
    change some <$> read row = .ok (some a) at h
    cases hrow : read row with
    | error e =>
        rw [hrow] at h
        cases h
    | ok b =>
        rw [hrow] at h
        cases h
        rfl

end Reply

namespace Query

variable (s : Statement) (read : RowReader α)

theorem rows_eq : rows s = Operation.asking s Reply.toRows := by
  refine congrArg (Dialogue.ask (.run s)) (funext fun reply => ?_)
  cases reply <;> rfl

theorem execute_eq : execute s = Operation.asking s Reply.changed := by
  refine congrArg (Dialogue.ask (.run s)) (funext fun reply => ?_)
  cases reply <;> rfl

theorem fetchAll_eq : fetchAll s read = Operation.asking s (Reply.all read) := by
  rw [fetchAll, rows_eq, Operation.asking_bind]
  refine congrArg (Dialogue.ask (.run s)) (funext fun reply => ?_)
  simp only [Reply.all]
  cases reply.toRows <;> rfl

theorem fetchOptional_eq : fetchOptional s read = Operation.asking s (Reply.optional read) := by
  rw [fetchOptional, rows_eq, Operation.asking_bind]
  refine congrArg (Dialogue.ask (.run s)) (funext fun reply => ?_)
  simp only [Reply.optional]
  rcases reply.toRows with e | _ | ⟨row, rows⟩
  · rfl
  · rfl
  · change (some <$> Operation.ofExcept (read row)).run = Dialogue.done (some <$> read row)
    cases read row <;> rfl

theorem fetchOne_eq : fetchOne s read = Operation.asking s (Reply.one read) := by
  rw [fetchOne, rows_eq, Operation.asking_bind]
  refine congrArg (Dialogue.ask (.run s)) (funext fun reply => ?_)
  simp only [Reply.one]
  rcases reply.toRows with e | _ | ⟨row, rows⟩ <;> rfl

end Query

end TaskQueue
