import TaskQueue.Channel

/-!
# What goes through a channel

What is put into a channel comes out of it in order, and what did not come out yet is in it, unless
its receiver is gone.
-/

namespace TaskQueue.Channel

variable {α : Type} {c c' : Channel α} {received delivered : List α} {a : α}

/-- A channel into which the values `delivered` were put, of which `received` came out. -/
structure Carried (c : Channel α) (received delivered : List α) : Prop where
  out : received <+: delivered
  items : c.attached = true → delivered = received ++ c.items
  detached : c.attached = false → c.items = []
  bounded : c.items.length ≤ c.capacity

theorem ofCapacity_eq_ok {capacity : Nat} (h : ofCapacity capacity = .ok c) : c = { capacity } := by
  unfold ofCapacity at h
  split at h <;> cases h
  rfl

theorem Carried.empty {capacity : Nat} : Carried { capacity } ([] : List α) [] :=
  ⟨List.prefix_rfl, fun _ => rfl, fun _ => rfl, Nat.zero_le _⟩

theorem Carried.push (h : c.Carried received delivered) (hroom : c.hasRoom = true) :
    (c.push a).Carried received (delivered ++ [a]) := by
  simp only [hasRoom, Bool.and_eq_true, decide_eq_true_eq] at hroom
  obtain ⟨hattached, hlt⟩ := hroom
  constructor
  case out => exact h.out.trans (List.prefix_append ..)
  case items => simp [Channel.push, h.items hattached]
  case detached => simp [Channel.push, hattached]
  case bounded => simpa [Channel.push] using Nat.succ_le_of_lt hlt

theorem Carried.take (h : c.Carried received delivered) (ht : c.take? = some (a, c')) :
    c'.Carried (received ++ [a]) delivered := by
  obtain ⟨items, hitems, rfl⟩ := take?_eq_some ht
  have hattached : c.attached = true := by
    cases ha : c.attached with
    | true => rfl
    | false => simp [h.detached ha] at hitems
  have hdelivered := h.items hattached
  rw [hitems] at hdelivered
  constructor
  case out => exact ⟨items, by simp [hdelivered]⟩
  case items => simp [hdelivered]
  case detached => simp [hattached]
  case bounded =>
    have hbounded := h.bounded
    simp only [hitems, List.length_cons] at hbounded
    exact Nat.le_of_succ_le hbounded

theorem Carried.detach (h : c.Carried received delivered) :
    c.detach.Carried received delivered :=
  ⟨h.out, by simp [Channel.detach], fun _ => rfl, Nat.zero_le _⟩

end TaskQueue.Channel
