import TaskQueue.Database.Command
import TaskQueue.Database.Error

/-!
# Dialogues with the database

An operation is a dialogue: it is either done, or it asks for something and continues from the
reply. What a dialogue does depends on nothing but the replies, so a server is a function from
requests to replies, with a state of its own. Running a dialogue also records its requests.

A transaction keeps a group of statements together. It is committed only after all of them went
well, and rolled back in every other case.
-/

namespace TaskQueue

inductive Request where
  | begin
  | commit
  | rollback
  /-- Asks for the notifications of a channel. -/
  | listen (channel : String)
  | run (statement : Statement)
deriving Repr, Inhabited

namespace Request

/-- A name as an identifier of a statement: between double quotes, its own quotes doubled. -/
def identifier (name : String) : String :=
  let quoted := name.toList.flatMap fun c => if c = '"' then ['"', '"'] else [c]
  String.ofList ('"' :: quoted ++ ['"'])

def sql : Request → String
  | begin => "BEGIN"
  | commit => "COMMIT"
  | rollback => "ROLLBACK"
  | listen channel => "LISTEN " ++ identifier channel
  | run statement => statement.sql

def args : Request → List Datum
  | run statement => statement.args
  | _ => []

end Request

abbrev Row := List (String × Datum)

inductive Reply where
  | rows (rows : List Row)
  | affected (count : Nat)
  | failed (code message : String)
deriving Repr, Inhabited

def Reply.empty : Reply := .affected 0

inductive Dialogue (α : Type) where
  | done (a : α)
  | ask (request : Request) (next : Reply → Dialogue α)

namespace Dialogue

def bind {α β : Type} (d : Dialogue α) (f : α → Dialogue β) : Dialogue β :=
  match d with
  | done a => f a
  | ask request next => ask request fun reply => (next reply).bind f

instance : Monad Dialogue where
  pure := done
  bind := bind

def request (r : Request) : Dialogue Reply :=
  ask r done

abbrev Server (σ : Type) := Request → σ → Reply × σ

/-- What came of a dialogue: its end, the state the server was left in, and the requests in
order. -/
structure Transcript (α σ : Type) where
  result : α
  server : σ
  log : List Request

def run {α σ : Type} (server : Server σ) : Dialogue α → σ → Transcript α σ
  | done a, s => ⟨a, s, []⟩
  | ask request next, s =>
    let (reply, s) := server request s
    let rest := run server (next reply) s
    { rest with log := request :: rest.log }

end Dialogue

abbrev Operation (ε α : Type) := ExceptT ε Dialogue α

namespace Operation

variable {α ε : Type}

/-- The operation that fails with the given cause unless there is a value. -/
def orFail (cause : ε) : Option α → Operation ε α
  | some a => pure a
  | none => throw cause

/-- The operation that is done at once, with a value or a failure. -/
def ofExcept (r : Except ε α) : Operation ε α :=
  ExceptT.mk (.done r)

def mapError {δ : Type} (f : ε → δ) (op : Operation ε α) : Operation δ α :=
  ExceptT.mk do
    match ← op.run with
    | .ok a => return .ok a
    | .error e => return .error (f e)

inductive Verdict (α : Type) where
  | keep (a : α)
  /-- Nothing was done that is worth keeping. -/
  | discard (a : α)

/-- Runs the body inside a transaction. A failure to begin ends the operation; a failure of the
body or of the commit rolls the transaction back. -/
def transaction (ofDatabase : DatabaseError → ε) (body : Operation ε (Verdict α)) :
    Operation ε α :=
  ExceptT.mk do
    match ← Dialogue.request .begin with
    | .failed code message => return .error (ofDatabase (.refused code message))
    | _ =>
      match ← body.run with
      | .error e =>
        let _ ← Dialogue.request .rollback
        return .error e
      | .ok (.discard a) =>
        let _ ← Dialogue.request .rollback
        return .ok a
      | .ok (.keep a) =>
        match ← Dialogue.request .commit with
        | .failed code message =>
          let _ ← Dialogue.request .rollback
          return .error (ofDatabase (.refused code message))
        | _ => return .ok a

end Operation

end TaskQueue
