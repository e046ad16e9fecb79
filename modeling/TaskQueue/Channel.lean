import TaskQueue.Fault

/-!
# Channels

A channel carries values from a loop to whoever consumes them, in order. It holds a limited number
of them, and it is of no more use once its receiver is gone.
-/

namespace TaskQueue

/-- A channel: how much it holds, what is in it, and whether it has a receiver. -/
structure Channel (α : Type) where
  capacity : Nat
  items : List α := []
  attached : Bool := true
deriving Repr

namespace Channel

variable {α : Type}

def ofCapacity (capacity : Nat) : Except Fault (Channel α) :=
  if capacity = 0 then .error .noCapacity else .ok { capacity }

def single : Channel α := { capacity := 1 }

def hasRoom (c : Channel α) : Bool :=
  c.attached && c.items.length < c.capacity

def push (c : Channel α) (a : α) : Channel α :=
  { c with items := c.items ++ [a] }

/-- The first value of a channel, and the channel without it. -/
def take? (c : Channel α) : Option (α × Channel α) :=
  match c.items with
  | [] => none
  | a :: items => some (a, { c with items })

theorem take?_eq_some {c c' : Channel α} {a : α} (h : c.take? = some (a, c')) :
    ∃ items, c.items = a :: items ∧ c' = { c with items } := by
  unfold take? at h
  split at h
  · cases h
  · rename_i items hitems
    cases h
    exact ⟨items, hitems, rfl⟩

/-- The channel after its receiver is gone, with all that was in it. -/
def detach (c : Channel α) : Channel α :=
  { c with items := [], attached := false }

end Channel

end TaskQueue
