import TaskQueue.Text.Quoted

/-!
# Errors of callbacks

A callback that fails returns a value that says why. The failure is worded by showing the value:
texts are quoted, lists stand in brackets, and a record shows its name and its fields.
-/

namespace TaskQueue

inductive ErrorValue where
  | unit
  | bool (b : Bool)
  | int (i : Int)
  | text (s : String)
  | texts (items : List String)
  | record (name : String) (fields : List (String × ErrorValue))
deriving Repr, Inhabited

namespace ErrorValue

mutual

def render : ErrorValue → String
  | unit => "()"
  | bool b => if b then "true" else "false"
  | int i => toString i
  | text s => Text.quote s
  | texts items => "[" ++ ", ".intercalate (items.map Text.quote) ++ "]"
  | record name fields => s!"{name} \x7b " ++ ", ".intercalate (renderFields fields) ++ " \x7d"

def renderFields : List (String × ErrorValue) → List String
  | [] => []
  | (name, value) :: rest => s!"{name}: {render value}" :: renderFields rest

end

end ErrorValue

end TaskQueue
