import Mathlib.Algebra.BigOperators.Group.List.Basic
import Mathlib.Algebra.GroupWithZero.Nat
import TaskQueue.Migration.Basic

/-!
# Patterns in texts

A text is split at the occurrences of a pattern, from left to right; what replaces the occurrences
stands between the parts. Two texts of which no occurrence lies across the joint are split and
replaced one apart from the other, and their occurrences add up.
-/

namespace TaskQueue.Migration

variable {p v a b t : List Char} {xs ys : List (List Char)} {k : Nat}

/-- The parts of a text between the occurrences of a pattern. The first `skip` characters belong to
an occurrence that was passed already. -/
def partsFrom (pattern : List Char) : Nat → List Char → List (List Char)
  | _, [] => [[]]
  | skip + 1, _ :: cs => partsFrom pattern skip cs
  | 0, c :: cs =>
    if pattern.isPrefixOf (c :: cs) then [] :: partsFrom pattern (pattern.length - 1) cs
    else (partsFrom pattern 0 cs).modifyHead (c :: ·)

def parts (pattern text : List Char) : List (List Char) := partsFrom pattern 0 text

def occurrences (pattern text : List Char) : Nat := (parts pattern text).length - 1

theorem partsFrom_ne_nil : partsFrom p k t ≠ [] := by
  fun_induction partsFrom p k t with
  | case1 => simp
  | case2 _ _ _ ih => exact ih
  | case3 => simp
  | case4 _ _ _ ih => simpa using ih

theorem length_parts : (parts p t).length = occurrences p t + 1 := by
  have hpos : 0 < (parts p t).length := List.length_pos_iff.mpr partsFrom_ne_nil
  unfold occurrences
  omega

theorem intercalate_modifyHead {c : Char} (h : xs ≠ []) :
    v.intercalate (xs.modifyHead (c :: ·)) = c :: v.intercalate xs := by
  match xs, h with
  | [x], _ => simp
  | x :: y :: xs, _ => simp [List.intercalate_cons_cons]

theorem replaceFrom_eq : replaceFrom p v k t = v.intercalate (partsFrom p k t) := by
  fun_induction partsFrom p k t with
  | case1 => simp [replaceFrom]
  | case2 _ _ _ ih => simpa only [replaceFrom] using ih
  | case3 c cs h ih =>
      rw [replaceFrom, if_pos h, ih, List.intercalate_cons_of_ne_nil partsFrom_ne_nil,
        List.nil_append]
  | case4 c cs h ih => rw [replaceFrom, if_neg h, ih, intercalate_modifyHead partsFrom_ne_nil]

theorem intercalate_partsFrom (hp : p ≠ []) : p.intercalate (partsFrom p k t) = t.drop k := by
  fun_induction partsFrom p k t with
  | case1 => simp
  | case2 _ _ _ ih => simpa using ih
  | case3 c cs h ih =>
      obtain ⟨q, p, rfl⟩ := List.exists_cons_of_ne_nil hp
      obtain ⟨rest, hrest⟩ := List.isPrefixOf_iff_prefix.mp h
      obtain ⟨rfl, rfl⟩ := List.cons.inj hrest
      rw [List.intercalate_cons_of_ne_nil partsFrom_ne_nil, ih]
      simp
  | case4 c cs h ih => rw [intercalate_modifyHead partsFrom_ne_nil, ih]; rfl

theorem intercalate_parts (hp : p ≠ []) : p.intercalate (parts p t) = t :=
  intercalate_partsFrom hp

/-! ## Joints -/

/-- No occurrence of a pattern lies across the joint of two texts. -/
def Apart (p a b : List Char) : Prop :=
  ∀ x, x ≠ [] → x <:+ a → p <+: x ++ b → p <+: x

theorem Apart.of_cons {c : Char} (h : Apart p (c :: a) b) : Apart p a b :=
  fun x hne hx => h x hne (hx.trans (List.suffix_cons c a))

/-- What lies across a joint has the characters at the joint next to each other. -/
theorem apart_of_not_adjacent
    (h : ∀ l ∈ a.getLast?, ∀ r ∈ b.head?, ¬ [l, r] <:+: p) : Apart p a b := by
  rintro x hne ⟨y, rfl⟩ ⟨rest, hrest⟩
  rw [List.append_eq_append_iff] at hrest
  obtain ⟨q, rfl, -⟩ | ⟨q, rfl, rfl⟩ := hrest
  · exact List.prefix_append p q
  · cases q with
    | nil => simp
    | cons r q =>
        obtain rfl | ⟨x, l, rfl⟩ := x.eq_nil_or_concat
        · contradiction
        · exact absurd ⟨x, q, by simp⟩ (h l (by simp) r (by simp))

theorem apart_of_head (h : ∀ r ∈ b.head?, r ∉ p) : Apart p a b :=
  apart_of_not_adjacent fun _ _ r hr hadjacent => h r hr (hadjacent.subset (by simp))

theorem apart_of_last (h : ∀ l ∈ a.getLast?, l ∉ p) : Apart p a b :=
  apart_of_not_adjacent fun l hl _ _ hadjacent => h l hl (hadjacent.subset (by simp))

/-- The parts of two texts, the last part of the first joined to the first part of the second. -/
def join : List (List Char) → List (List Char) → List (List Char)
  | [], ys => ys
  | [x], ys => ys.modifyHead (x ++ ·)
  | x :: x' :: xs, ys => x :: join (x' :: xs) ys

theorem join_cons {x : List Char} (h : xs ≠ []) : join (x :: xs) ys = x :: join xs ys := by
  obtain ⟨x', xs, rfl⟩ := List.exists_cons_of_ne_nil h
  rfl

theorem join_modifyHead {c : Char} (h : xs ≠ []) :
    join (xs.modifyHead (c :: ·)) ys = (join xs ys).modifyHead (c :: ·) := by
  match xs, h with
  | [x], _ => simp [join, Function.comp_def]
  | x :: x' :: xs, _ => rfl

theorem length_join (hx : xs ≠ []) :
    (join xs ys).length + 1 = xs.length + ys.length := by
  induction xs with
  | nil => contradiction
  | cons x xs ih =>
      by_cases h : xs = []
      · subst h
        simp only [join, List.length_modifyHead, List.length_cons, List.length_nil]
        omega
      · rw [join_cons h, List.length_cons, ih h, List.length_cons]
        omega

theorem join_ne_nil (hx : xs ≠ []) (hy : ys ≠ []) : join xs ys ≠ [] := by
  have hlength : (join xs ys).length + 1 = _ := length_join hx
  have hxs := List.length_pos_iff.mpr hx
  have hys := List.length_pos_iff.mpr hy
  exact List.length_pos_iff.mp (by omega)

theorem intercalate_join (hx : xs ≠ []) (hy : ys ≠ []) :
    v.intercalate (join xs ys) = v.intercalate xs ++ v.intercalate ys := by
  induction xs with
  | nil => contradiction
  | cons x xs ih =>
      by_cases h : xs = []
      · subst h
        obtain ⟨y, ys, rfl⟩ := List.exists_cons_of_ne_nil hy
        cases ys <;> simp [join, List.intercalate_cons_cons]
      · rw [join_cons h, List.intercalate_cons_of_ne_nil (join_ne_nil h hy), ih h,
          List.intercalate_cons_of_ne_nil h]
        simp

theorem partsFrom_append (h : Apart p a b) (hk : k ≤ a.length) :
    partsFrom p k (a ++ b) = join (partsFrom p k a) (parts p b) := by
  induction a generalizing k with
  | nil =>
      obtain rfl := Nat.le_zero.mp hk
      change parts p b = (parts p b).modifyHead id
      rw [List.modifyHead_id, id_eq]
  | cons c a ih =>
      cases k with
      | succ k => exact ih h.of_cons (Nat.le_of_succ_le_succ hk)
      | zero =>
          by_cases hp : p <+: c :: (a ++ b)
          · have hp' : p <+: c :: a := h (c :: a) (by simp) List.suffix_rfl hp
            have hlength := hp'.length_le
            rw [List.cons_append, partsFrom, if_pos (List.isPrefixOf_iff_prefix.mpr hp), partsFrom,
              if_pos (List.isPrefixOf_iff_prefix.mpr hp'), join_cons partsFrom_ne_nil,
              ih h.of_cons (by simp at hlength; omega)]
          · have hp' : ¬ p <+: c :: a := fun hp' => hp (hp'.trans (List.prefix_append _ b))
            rw [List.cons_append, partsFrom, if_neg (by simpa using hp), partsFrom,
              if_neg (by simpa using hp'), join_modifyHead partsFrom_ne_nil,
              ih h.of_cons (Nat.zero_le _)]

theorem parts_append (h : Apart p a b) : parts p (a ++ b) = join (parts p a) (parts p b) :=
  partsFrom_append h (Nat.zero_le _)

theorem occurrences_append (h : Apart p a b) :
    occurrences p (a ++ b) = occurrences p a + occurrences p b := by
  have hlength : (join (parts p a) (parts p b)).length + 1 = _ := length_join partsFrom_ne_nil
  rw [← parts_append h, length_parts, length_parts, length_parts] at hlength
  omega

theorem replaceFrom_append (h : Apart p a b) :
    replaceFrom p v 0 (a ++ b) = replaceFrom p v 0 a ++ replaceFrom p v 0 b := by
  rw [replaceFrom_eq, replaceFrom_eq, replaceFrom_eq, partsFrom_append h (Nat.zero_le _)]
  exact intercalate_join partsFrom_ne_nil partsFrom_ne_nil

/-! ## Texts without an occurrence -/

theorem occurrences_cons_ne_zero {c : Char} (h : p <+: c :: t) :
    occurrences p (c :: t) ≠ 0 := by
  have hlength : (parts p (c :: t)).length = _ := length_parts
  rw [parts, partsFrom, if_pos (List.isPrefixOf_iff_prefix.mpr h), List.length_cons] at hlength
  have hpos := List.length_pos_iff.mpr (partsFrom_ne_nil (p := p) (k := p.length - 1) (t := t))
  omega

theorem occurrences_cons {c : Char} (h : ¬ p <+: c :: t) :
    occurrences p (c :: t) = occurrences p t := by
  rw [occurrences, parts, partsFrom, if_neg (by simpa using h), List.length_modifyHead]
  rfl

theorem occurrences_eq_zero_iff (hp : p ≠ []) : occurrences p t = 0 ↔ ¬ p <:+: t := by
  induction t with
  | nil => simp [occurrences, parts, partsFrom, hp]
  | cons c t ih =>
      rw [List.infix_cons_iff]
      by_cases h : p <+: c :: t
      · simp [h, occurrences_cons_ne_zero h]
      · simp [h, occurrences_cons h, ih]

theorem occurrences_of_length_lt (h : t.length < p.length) : occurrences p t = 0 := by
  have hp : p ≠ [] := List.length_pos_iff.mp (by omega)
  exact (occurrences_eq_zero_iff hp).mpr fun happears => absurd happears.length_le (by omega)

/-- What stands between two occurrences has none. -/
theorem occurrences_of_mem_partsFrom (hp : p ≠ []) :
    ∀ x ∈ partsFrom p k t, occurrences p x = 0 := by
  fun_induction partsFrom p k t with
  | case1 => simp [occurrences, parts, partsFrom]
  | case2 _ _ _ ih => exact ih
  | case3 _ _ _ ih => exact List.forall_mem_cons.mpr ⟨rfl, ih⟩
  | case4 c cs h ih =>
      have hparts : p.intercalate (partsFrom p 0 cs) = cs := intercalate_partsFrom hp
      obtain ⟨x, xs, hx⟩ :=
        List.exists_cons_of_ne_nil (partsFrom_ne_nil (p := p) (k := 0) (t := cs))
      rw [hx] at ih hparts ⊢
      obtain ⟨hfirst, hrest⟩ := List.forall_mem_cons.mp ih
      refine List.forall_mem_cons.mpr ⟨?_, hrest⟩
      have hprefix : x <+: cs := by
        rw [← hparts]
        cases xs with
        | nil => simp
        | cons y ys => exact ⟨_, by rw [List.intercalate_cons_cons, List.append_assoc]⟩
      have hnot : ¬ p <+: c :: x := fun hp =>
        h (List.isPrefixOf_iff_prefix.mpr (hp.trans (List.cons_prefix_cons.mpr ⟨rfl, hprefix⟩)))
      rw [occurrences_cons hnot, hfirst]

theorem parts_of_occurrences (hp : p ≠ []) (h : occurrences p t = 0) : parts p t = [t] := by
  have hlength : (parts p t).length = _ := length_parts
  rw [h] at hlength
  obtain ⟨x, hx⟩ := List.length_eq_one_iff.mp hlength
  have htext : p.intercalate (parts p t) = t := intercalate_parts hp
  rw [hx, List.intercalate_singleton] at htext
  rw [hx, htext]

theorem replaceFrom_of_occurrences (hp : p ≠ []) (h : occurrences p t = 0) :
    replaceFrom p v 0 t = t := by
  rw [replaceFrom_eq, ← parts, parts_of_occurrences hp h, List.intercalate_singleton]

/-! ## Texts put together -/

/-- The occurrences in parts and in what stands between them add up. -/
theorem occurrences_intercalate (hbefore : ∀ x ∈ xs.dropLast, ∀ rest, Apart p x (v ++ rest))
    (hafter : ∀ x ∈ xs.tail, ∀ rest, Apart p v (x ++ rest)) :
    occurrences p (v.intercalate xs) =
      (xs.map (occurrences p)).sum + (xs.length - 1) * occurrences p v := by
  induction xs with
  | nil => simp [occurrences, parts, partsFrom]
  | cons x xs ih =>
      cases xs with
      | nil => simp
      | cons y ys =>
          obtain ⟨hx, hbefore⟩ := List.forall_mem_cons.mp hbefore
          obtain ⟨hy, hys⟩ := List.forall_mem_cons.mp hafter
          obtain ⟨rest, hrest⟩ : ∃ rest, v.intercalate (y :: ys) = y ++ rest := by
            cases ys with
            | nil => exact ⟨[], by simp⟩
            | cons z zs => exact ⟨_, by rw [List.intercalate_cons_cons, List.append_assoc]⟩
          have hv : Apart p v (v.intercalate (y :: ys)) := hrest ▸ hy rest
          rw [List.intercalate_cons_cons, List.append_assoc, occurrences_append (hx _),
            occurrences_append hv, ih hbefore hys]
          simp only [List.map_cons, List.sum_cons, List.length_cons, Nat.add_sub_cancel,
            Nat.add_mul]
          omega

theorem replaceFrom_intercalate {d : List Char} (hp : p ≠ []) (hd : occurrences p d = 0)
    (hbefore : ∀ a rest, Apart p a (d ++ rest)) (hafter : ∀ rest, Apart p d rest) :
    replaceFrom p v 0 (d.intercalate ys) = d.intercalate (ys.map (replaceFrom p v 0)) := by
  induction ys with
  | nil => rfl
  | cons y ys ih =>
      by_cases hnil : ys = []
      · subst hnil
        simp
      · have hmap : ys.map (replaceFrom p v 0) ≠ [] := by simpa using hnil
        rw [List.intercalate_cons_of_ne_nil hnil, List.append_assoc,
          replaceFrom_append (hbefore _ _), replaceFrom_append (hafter _),
          replaceFrom_of_occurrences hp hd, ih, List.map_cons,
          List.intercalate_cons_of_ne_nil hmap, List.append_assoc]

end TaskQueue.Migration
