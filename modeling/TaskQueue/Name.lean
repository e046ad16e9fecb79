import TaskQueue.Text.Blank
import TaskQueue.Text.LowerCase
import TaskQueue.Text.Quoted

/-!
# Names

Queues, tickers and namespaces are named by identifiers: a letter, then letters, digits and
underscores, at most 63 characters. A text names the identifier that is left when it is trimmed
and put into lower case. Two identifiers are reserved for the namespaces every installation has.

The cleanup ticker of a queue is named by the queue's namespace and name with a point between them;
a point occurs in no identifier.
-/

namespace TaskQueue

def defaultNamespace : String := "default"

def cleanupNamespace : String := "cleanup"

/-- The topic on which insertions into the queues of a namespace are announced. -/
def insertTopic : String := "queue_insert"

/-- The channel on which insertions into the queues of a namespace are announced. -/
def insertChannel (ns : String) : String :=
  ns ++ "_" ++ insertTopic

inductive NameError where
  | empty (kind : String)
  | invalid (kind name : String)
  | reserved (kind name : String)
deriving Repr, DecidableEq

namespace NameError

def message : NameError → String
  | empty kind => s!"Missing {kind} name"
  | invalid kind name => s!"Invalid {kind} name {Text.quote name}"
  | reserved kind name => s!"Reserved {kind} name {Text.quote name}"

end NameError

namespace Name

def maxLength : Nat := 63

/-- The names that cannot be chosen for a queue or a namespace. -/
def reserved : List String := [defaultNamespace, cleanupNamespace]

/-- Whether a character may stand after the first one of an identifier. -/
def isIdentifierRest (c : Char) : Bool :=
  c.isAlphanum || c = '_'

/-- Whether a text is an identifier, apart from the case of its letters. -/
def isIdentifier : List Char → Bool
  | [] => false
  | c :: cs => c.isAlpha && cs.length < maxLength && cs.all isIdentifierRest

/-- The identifier that a text names. The kind of thing it names is only used in messages. -/
def normalize (kind name : String) : Except NameError String :=
  let name := Text.lowerCase (Text.trim name.toList)
  if name.isEmpty then .error (.empty kind)
  else if isIdentifier name then .ok (String.ofList name)
  else .error (.invalid kind (String.ofList name))

/-- The identifier that a text names, unless it is reserved. -/
def validate (kind name : String) : Except NameError String := do
  let name ← normalize kind name
  if name ∈ reserved then .error (.reserved kind name) else .ok name

end Name

namespace CleanupTicker

def name (ns queue : String) : String :=
  ns ++ "." ++ queue

/-- The namespace and the queue that a cleanup ticker's name stands for: the parts before and after
its first point, neither of them empty. -/
def parse? (name : String) : Option (String × String) :=
  match name.toList.span (· ≠ '.') with
  | (ns, _ :: queue) =>
    if ns.isEmpty || queue.isEmpty then none else some (String.ofList ns, String.ofList queue)
  | (_, []) => none

end CleanupTicker

end TaskQueue
