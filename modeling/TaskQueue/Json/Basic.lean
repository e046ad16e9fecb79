import TaskQueue.Decimal.Binary64

/-!
# JSON values

Payloads and results of tasks are JSON values, and every entity has a JSON form. Whole numbers and
floating-point numbers are kept apart. The fields of an object are kept in ascending order of their
names, each name once.
-/

namespace TaskQueue

inductive Json where
  | null
  | bool (b : Bool)
  | int (i : Int)
  | float (x : Decimal.Binary64)
  | text (s : String)
  | array (items : List Json)
  | object (fields : List (String × Json))
deriving Repr, Inhabited

namespace Json

/-- Puts a field at its place, instead of the field that had its name. -/
def insertField (name : String) (value : Json) : List (String × Json) → List (String × Json)
  | [] => [(name, value)]
  | (other, otherValue) :: rest =>
    if name < other then (name, value) :: (other, otherValue) :: rest
    else if name = other then (name, value) :: rest
    else (other, otherValue) :: insertField name value rest

/-- The fields in ascending order of their names; of two fields of one name the later one stays. -/
def sortFields (fields : List (String × Json)) : List (String × Json) :=
  fields.foldl (fun sorted (name, value) => insertField name value sorted) []

def ofFields (fields : List (String × Json)) : Json :=
  .object (sortFields fields)

def ofOption {α : Type} (encode : α → Json) : Option α → Json
  | some a => encode a
  | none => .null

def ofList {α : Type} (encode : α → Json) (items : List α) : Json :=
  .array (items.map encode)

def field? (name : String) : Json → Option Json
  | .object fields => fields.lookup name
  | _ => none

end Json

end TaskQueue
