import TaskQueue.Json.Basic
import TaskQueue.Decimal.Shortest
import TaskQueue.Text.Quoted

/-!
# Decoding JSON values

A decoder takes a JSON value to a typed value or to the cause why it has none. The fields of a
record are decoded in the order in which the object holds them, so the first bad field in that
order is the one reported; only then are missing fields looked for, in the order in which the
record declares them. A record also decodes from the array of all its fields.
-/

namespace TaskQueue

/-- What a decoder met where it expected something else. -/
inductive Found where
  | null
  | bool (b : Bool)
  | int (i : Int)
  | float (x : Decimal.Binary64)
  | text (s : String)
  | sequence
  | map
  | unitVariant
deriving Repr, DecidableEq

namespace Found

/-- How a value is named when it is not what was expected. -/
def ofJson : Json → Found
  | .null => .null
  | .bool b => .bool b
  | .int i => .int i
  | .float x => .float x
  | .text s => .text s
  | .array _ => .sequence
  | .object _ => .map

def message : Found → String
  | null => "null"
  | bool b => s!"boolean `{b}`"
  | int i => s!"integer `{i}`"
  | float x => s!"floating point `{x.render}`"
  | text s => s!"string {Text.quote s}"
  | sequence => "sequence"
  | map => "map"
  | unitVariant => "unit variant"

end Found

inductive DecodeError where
  | missingField (name : String)
  | unknownField (name : String) (expected : List String)
  | unknownVariant (name : String) (expected : List String)
  | invalidType (found : Found) (expected : String)
  | invalidValue (found : Found) (expected : String)
  | invalidLength (length : Nat) (expected : String)
  | spanOverflow
  | invalidTimestamp
deriving Repr, DecidableEq

namespace DecodeError

def oneOf : List String → String
  | [a] => s!"`{a}`"
  | [a, b] => s!"`{a}` or `{b}`"
  | names => "one of " ++ ", ".intercalate (names.map fun name => s!"`{name}`")

def message : DecodeError → String
  | missingField name => s!"missing field `{name}`"
  | unknownField name expected => s!"unknown field `{name}`, expected {oneOf expected}"
  | unknownVariant name expected => s!"unknown variant `{name}`, expected {oneOf expected}"
  | invalidType found expected => s!"invalid type: {found.message}, expected {expected}"
  | invalidValue found expected => s!"invalid value: {found.message}, expected {expected}"
  | invalidLength length expected => s!"invalid length {length}, expected {expected}"
  | spanOverflow => "overflow deserializing Duration"
  | invalidTimestamp => "invalid timestamp"

end DecodeError

abbrev Decoder (α : Type) := Json → Except DecodeError α

namespace Decoder

def mismatch {α : Type} (expected : String) (j : Json) : Except DecodeError α :=
  .error (.invalidType (.ofJson j) expected)

def any : Decoder Json := .ok

def unit : Decoder Unit
  | .null => .ok ()
  | j => mismatch "unit" j

def bool : Decoder Bool
  | .bool b => .ok b
  | j => mismatch "a boolean" j

def text : Decoder String
  | .text s => .ok s
  | j => mismatch "a string" j

/-- A whole number between two bounds, of the named type. -/
def intBetween (low high : Int) (typeName : String) : Decoder Int
  | .int i => if low ≤ i ∧ i ≤ high then .ok i else .error (.invalidValue (.int i) typeName)
  | j => mismatch typeName j

def signed (bits : Nat) : Decoder Int :=
  intBetween (-Int.pow 2 (bits - 1)) (Int.pow 2 (bits - 1) - 1) s!"i{bits}"

def unsigned (bits : Nat) : Decoder Nat := fun j =>
  (intBetween 0 (Int.pow 2 bits - 1) s!"u{bits}" j).map Int.toNat

def optional {α : Type} (decode : Decoder α) : Decoder (Option α)
  | .null => .ok none
  | j => (decode j).map some

def list {α : Type} (decode : Decoder α) : Decoder (List α)
  | .array items => items.mapM decode
  | j => mismatch "a sequence" j

/-- The fields of a record that decode to an `α`: a check for each field by its name, and the two
ways to read all of them, from an object and from an array. -/
structure Fields (α : Type) where
  checks : List (String × Decoder Unit)
  ofObject : List (String × Json) → Except DecodeError α
  ofArray : List Json → Option (Except DecodeError (α × List Json))

namespace Fields

def nothing {α : Type} (a : α) : Fields α where
  checks := []
  ofObject _ := .ok a
  ofArray items := some (.ok (a, items))

/-- One more field. An absent field reads as `absent`, or is missing when there is no such value. -/
def add {α β : Type} (fields : Fields (α → β)) (name : String) (decode : Decoder α)
    (absent : Option α) : Fields β where
  checks := fields.checks ++ [(name, fun j => (decode j).map fun _ => ())]
  ofObject entries := do
    let f ← fields.ofObject entries
    match entries.lookup name with
    | some j => f <$> decode j
    | none =>
      match absent with
      | some a => .ok (f a)
      | none => .error (.missingField name)
  ofArray items :=
    match fields.ofArray items with
    | some (.ok (f, j :: rest)) => some ((decode j).map fun a => (f a, rest))
    | some (.ok (_, [])) => none
    | some (.error e) => some (.error e)
    | none => none

def field {α β : Type} (fields : Fields (α → β)) (name : String) (decode : Decoder α) : Fields β :=
  fields.add name decode none

def optionalField {α β : Type} (fields : Fields (Option α → β)) (name : String)
    (decode : Decoder α) : Fields β :=
  fields.add name (optional decode) (some none)

/-- A field that may be absent, and then has a value of its own; it may be left out of an array
as well. -/
def defaultField {α β : Type} (fields : Fields (α → β)) (name : String) (decode : Decoder α)
    (value : α) : Fields β :=
  { fields.add name decode (some value) with
    ofArray := fun items =>
      match fields.ofArray items with
      | some (.ok (f, j :: rest)) => some ((decode j).map fun a => (f a, rest))
      | some (.ok (f, [])) => some (.ok (f value, []))
      | some (.error e) => some (.error e)
      | none => none }

/-- Checks the entries of an object whose name is that of a field. -/
def check {α : Type} (fields : Fields α) (entries : List (String × Json)) :
    Except DecodeError Unit :=
  entries.forM fun (name, j) =>
    match fields.checks.lookup name with
    | some check => check j
    | none => .ok ()

/-- The fields read from an object: the entries are checked in their order, then the fields are
taken in theirs. -/
def readObject {α : Type} (fields : Fields α) (entries : List (String × Json)) :
    Except DecodeError α := do
  fields.check entries
  fields.ofObject entries

/-- How many elements at the start of an array are used up by the fields that it has. -/
def count {α : Type} (fields : Fields α) : Nat :=
  fields.checks.length

def expected {α : Type} (fields : Fields α) (typeName : String) : String :=
  let elements := if fields.count = 1 then "element" else "elements"
  s!"struct {typeName} with {fields.count} {elements}"

/-- The fields read from an array that has exactly all of them. -/
def readArray {α : Type} (fields : Fields α) (shortage : String) (items : List Json) :
    Except DecodeError α :=
  match fields.ofArray items with
  | some (.ok (a, [])) => .ok a
  | some (.ok (_, _ :: _)) => .error (.invalidLength items.length "fewer elements in array")
  | some (.error e) => .error e
  | none => .error (.invalidLength items.length shortage)

end Fields

/-- A record, from the object or the array of its fields. -/
def record {α : Type} (typeName : String) (fields : Fields α) : Decoder α
  | .object entries => fields.readObject entries
  | .array items => fields.readArray (fields.expected typeName) items
  | j => mismatch s!"struct {typeName}" j

/-- A record whose fields are kept beside those of an inner record: it decodes from objects only,
and the inner record is read after its own fields. -/
def recordAround {α β : Type} (typeName : String) (inner : Fields α)
    (outer : Fields (α → β)) : Decoder β
  | .object entries => do
    outer.check entries
    let f ← outer.ofObject entries
    f <$> inner.readObject entries
  | j => mismatch s!"struct {typeName}" j

def pair {α β : Type} (first : Decoder α) (second : Decoder β) : Decoder (α × β)
  | .array items =>
    let fields := (Fields.nothing Prod.mk).field "0" first |>.field "1" second
    fields.readArray "a tuple of size 2" items
  | j => mismatch "a tuple of size 2" j

inductive Variant (α : Type) where
  | unit (a : α)
  | single (decode : Decoder α)
  | record (fields : Fields α)

namespace Variant

def readName {α : Type} : Variant α → Except DecodeError α
  | unit a => .ok a
  | single _ => .error (.invalidType .unitVariant "newtype variant")
  | record _ => .error (.invalidType .unitVariant "struct variant")

def readContent {α : Type} : Variant α → Decoder α
  | unit a, j => (Decoder.unit j).map fun _ => a
  | single decode, j => decode j
  | record fields, .object entries => fields.readObject entries
  | record _, j => mismatch "struct variant" j

end Variant

/-- A choice between variants: the name of the variant, or an object whose only field has that
name and holds what the variant holds. -/
def choice {α : Type} (variants : List (String × Variant α)) : Decoder α
  | .text name => find name >>= Variant.readName
  | .object [(name, content)] => find name >>= fun variant => variant.readContent content
  | .object _ => .error (.invalidValue .map "map with a single key")
  | j => mismatch "string or map" j
where
  find (name : String) : Except DecodeError (Variant α) :=
    match variants.lookup name with
    | some variant => .ok variant
    | none => .error (.unknownVariant name (variants.map Prod.fst))

end Decoder

end TaskQueue
