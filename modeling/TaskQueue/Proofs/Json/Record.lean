import Mathlib.Data.List.Basic
import Mathlib.Data.List.Nodup
import TaskQueue.Json.Decode

/-!
# Records that are read back

A record is written as the object of its fields, in the order of their names. The fields that are
read from it may be taken one after the other, each from where it was written: a record reads back
as what was written if each of its fields does.
-/

namespace TaskQueue

/-! ## Objects -/

namespace Json

variable {name : String} {value : Json} {fields written : List (String × Json)}

theorem insertField_perm (h : name ∉ fields.map Prod.fst) :
    (insertField name value fields).Perm ((name, value) :: fields) := by
  induction fields with
  | nil => exact .refl _
  | cons entry fields ih =>
      obtain ⟨other, otherValue⟩ := entry
      simp only [List.map_cons, List.mem_cons, not_or] at h
      simp only [insertField, if_neg h.1]
      split
      · exact .refl _
      · exact ((ih h.2).cons _).trans (.swap _ _ _)

theorem foldl_insertField_perm (h : ((fields ++ written).map Prod.fst).Nodup) :
    (written.foldl (fun sorted (name, value) => insertField name value sorted) fields).Perm
      (fields ++ written) := by
  induction written generalizing fields with
  | nil => simp
  | cons entry written ih =>
      obtain ⟨name, value⟩ := entry
      have hmiddle : (fields ++ (name, value) :: written).Perm
          ((name, value) :: (fields ++ written)) := List.perm_middle
      have hnodup := (hmiddle.map Prod.fst).nodup_iff.mp h
      simp only [List.map_cons, List.nodup_cons, List.map_append, List.mem_append, not_or] at hnodup
      have hinsert : (insertField name value fields).Perm ((name, value) :: fields) :=
        insertField_perm hnodup.1.1
      have hmore : ((insertField name value fields ++ written).map Prod.fst).Nodup := by
        refine ((hinsert.append_right written).map Prod.fst).nodup_iff.mpr ?_
        simpa using hnodup
      exact (ih hmore).trans ((hinsert.append_right written).trans hmiddle.symm)

/-- An object has the fields that were written, if these have different names. -/
theorem sortFields_perm (h : (written.map Prod.fst).Nodup) : (sortFields written).Perm written := by
  rw [← List.nil_append written] at h
  exact foldl_insertField_perm h

theorem lookup_eq_some_of_mem (h : (fields.map Prod.fst).Nodup) (hmem : (name, value) ∈ fields) :
    fields.lookup name = some value := by
  induction fields with
  | nil => cases hmem
  | cons entry fields ih =>
      obtain ⟨other, otherValue⟩ := entry
      simp only [List.map_cons, List.nodup_cons] at h
      rcases List.mem_cons.mp hmem with heq | hmem
      · cases heq
        exact List.lookup_cons_self
      · have hne : name ≠ other := fun hname =>
          h.1 (hname ▸ List.mem_map_of_mem (f := Prod.fst) hmem)
        rw [List.lookup_cons, beq_false_of_ne hne]
        exact ih h.2 hmem

end Json

namespace Decoder

/-! ## Fields -/

namespace Fields

variable {α β : Type} {written entries : List (String × Json)} {name : String} {j : Json}

/-- What is read from the fields that were written, in whatever order an object has them. -/
structure Reads (fields : Fields α) (written : List (String × Json)) (a : α) : Prop where
  distinct : (written.map Prod.fst).Nodup
  checked : ∀ {name j check}, (name, j) ∈ written → fields.checks.lookup name = some check →
    check j = .ok ()
  taken : ∀ {entries : List (String × Json)}, entries.Perm written → fields.ofObject entries = .ok a

theorem Reads.nothing {a : α} (h : (written.map Prod.fst).Nodup) :
    (Fields.nothing a).Reads written a :=
  ⟨h, fun _ hcheck => (nomatch hcheck), fun _ => rfl⟩

theorem Reads.add {fields : Fields (α → β)} {f : α → β} {decode : Decoder α} {a : α}
    {absent : Option α} (h : fields.Reads written f) (hmem : (name, j) ∈ written)
    (hdecode : decode j = .ok a) : (fields.add name decode absent).Reads written (f a) where
  distinct := h.distinct
  checked := by
    intro other j' check hmem' hcheck
    simp only [Fields.add, List.lookup_append] at hcheck
    cases hold : fields.checks.lookup other with
    | some check' =>
        rw [hold] at hcheck
        cases hcheck
        exact h.checked hmem' hold
    | none =>
        rw [hold, Option.none_or] at hcheck
        have hother : other = name := by
          by_contra hne
          simp [List.lookup_cons, beq_false_of_ne hne] at hcheck
        subst hother
        simp only [List.lookup_cons_self, Option.some.injEq] at hcheck
        have hj : some j' = some j :=
          (Json.lookup_eq_some_of_mem h.distinct hmem').symm.trans
            (Json.lookup_eq_some_of_mem h.distinct hmem)
        cases hj
        subst hcheck
        simp only [hdecode]
        rfl
  taken := by
    intro entries hperm
    have hnodup := (hperm.map Prod.fst).nodup_iff.mpr h.distinct
    have hlookup := Json.lookup_eq_some_of_mem hnodup (hperm.mem_iff.mpr hmem)
    simp only [Fields.add, h.taken hperm, hlookup, hdecode]
    rfl

theorem Reads.field {fields : Fields (α → β)} {f : α → β} {decode : Decoder α} {a : α}
    (h : fields.Reads written f) (hmem : (name, j) ∈ written) (hdecode : decode j = .ok a) :
    (fields.field name decode).Reads written (f a) :=
  h.add hmem hdecode

theorem Reads.optionalField {fields : Fields (Option α → β)} {f : Option α → β}
    {decode : Decoder α} {a : Option α} (h : fields.Reads written f) (hmem : (name, j) ∈ written)
    (hdecode : optional decode j = .ok a) :
    (fields.optionalField name decode).Reads written (f a) :=
  h.add hmem hdecode

theorem check_eq_ok {fields : Fields α}
    (h : ∀ name j check, (name, j) ∈ entries → fields.checks.lookup name = some check →
      check j = .ok ()) : fields.check entries = .ok () := by
  unfold Fields.check
  induction entries with
  | nil => rfl
  | cons entry entries ih =>
      obtain ⟨name, j⟩ := entry
      have hentries := ih fun name j check hmem => h name j check (List.mem_cons_of_mem _ hmem)
      simp only [List.forM, hentries]
      cases hcheck : fields.checks.lookup name with
      | none => rfl
      | some check =>
          simp only [h name j check List.mem_cons_self hcheck]
          rfl

theorem Reads.check {fields : Fields α} {a : α} (h : fields.Reads written a) :
    fields.check (Json.sortFields written) = .ok () :=
  check_eq_ok fun _ _ _ hmem hcheck =>
    h.checked ((Json.sortFields_perm h.distinct).mem_iff.mp hmem) hcheck

theorem Reads.readObject {fields : Fields α} {a : α} (h : fields.Reads written a) :
    fields.readObject (Json.sortFields written) = .ok a := by
  simp only [Fields.readObject, h.check, h.taken (Json.sortFields_perm h.distinct)]
  rfl

/-- A record reads back if its fields do. -/
theorem Reads.record {fields : Fields α} {a : α} {typeName : String}
    (h : fields.Reads written a) : record typeName fields (.ofFields written) = .ok a :=
  h.readObject

/-- A record that keeps its fields beside those of an inner record reads back if both do. -/
theorem Reads.recordAround {inner : Fields α} {outer : Fields (α → β)} {a : α} {f : α → β}
    {typeName : String} (hinner : inner.Reads written a) (houter : outer.Reads written f) :
    recordAround typeName inner outer (.ofFields written) = .ok (f a) := by
  simp only [Decoder.recordAround, Json.ofFields, houter.check,
    houter.taken (Json.sortFields_perm houter.distinct), hinner.readObject]
  rfl

/-- What holds of everything that is read from the fields, from an object or from an array. -/
structure Makes (fields : Fields α) (P : α → Prop) : Prop where
  ofObject : ∀ {entries a}, fields.ofObject entries = .ok a → P a
  ofArray : ∀ {items a rest}, fields.ofArray items = some (.ok (a, rest)) → P a

theorem Makes.nothing {a : α} {P : α → Prop} (h : P a) : (Fields.nothing a).Makes P where
  ofObject heq := by cases heq; exact h
  ofArray heq := by cases heq; exact h

theorem Makes.add {fields : Fields (α → β)} {decode : Decoder α} {absent : Option α}
    {R : α → Prop} {P : β → Prop} (h : fields.Makes fun f => ∀ a, R a → P (f a))
    (hdecode : ∀ j a, decode j = .ok a → R a) (habsent : ∀ a, absent = some a → R a) :
    (fields.add name decode absent).Makes P where
  ofObject := by
    intro entries b hread
    simp only [Fields.add] at hread
    cases hf : fields.ofObject entries with
    | error e => rw [hf] at hread; cases hread
    | ok f =>
        rw [hf] at hread
        simp only [bind, Except.bind] at hread
        split at hread
        case h_1 j _ =>
          cases hj : decode j with
          | error e => rw [hj] at hread; cases hread
          | ok a =>
              rw [hj] at hread
              cases hread
              exact h.ofObject hf a (hdecode j a hj)
        case h_2 =>
          split at hread <;> cases hread
          exact h.ofObject hf _ (habsent _ rfl)
  ofArray := by
    intro items b rest hread
    simp only [Fields.add] at hread
    split at hread
    case h_1 f j rest' hf =>
      cases hj : decode j with
      | error e => rw [hj] at hread; cases hread
      | ok a =>
          rw [hj] at hread
          cases hread
          exact h.ofArray hf a (hdecode j a hj)
    all_goals cases hread

theorem Makes.field {fields : Fields (α → β)} {decode : Decoder α} {R : α → Prop} {P : β → Prop}
    (h : fields.Makes fun f => ∀ a, R a → P (f a)) (hdecode : ∀ j a, decode j = .ok a → R a) :
    (fields.field name decode).Makes P :=
  h.add hdecode nofun

theorem Makes.optionalField {fields : Fields (Option α → β)} {decode : Decoder α} {R : α → Prop}
    {P : β → Prop} (h : fields.Makes fun f => ∀ o, (∀ a ∈ o, R a) → P (f o))
    (hdecode : ∀ j a, decode j = .ok a → R a) : (fields.optionalField name decode).Makes P := by
  refine h.add (fun j o hread => ?_) (fun o habsent => by cases habsent; exact nofun)
  intro a ha
  cases ha
  have hmap : (decode j).map some = .ok (some a) := by
    cases j <;> first | cases hread | exact hread
  cases hj : decode j with
  | error e => rw [hj] at hmap; cases hmap
  | ok a' =>
      rw [hj] at hmap
      cases hmap
      exact hdecode j _ hj

theorem Makes.record {fields : Fields α} {P : α → Prop} (h : fields.Makes P) {typeName : String}
    {j : Json} {a : α} (hread : record typeName fields j = .ok a) : P a := by
  cases j with
  | object entries =>
      simp only [Decoder.record, Fields.readObject] at hread
      cases hcheck : fields.check entries with
      | error e => rw [hcheck] at hread; cases hread
      | ok => rw [hcheck] at hread; exact h.ofObject hread
  | array items =>
      simp only [Decoder.record, readArray] at hread
      split at hread <;> cases hread
      exact h.ofArray ‹_›
  | null | bool | int | float | text => cases hread

end Fields

/-! ## Values -/

theorem optional_ofOption {α : Type} {decode : Decoder α} {encode : α → Json}
    (hdecode : ∀ a, decode (encode a) = .ok a) (hnull : ∀ a, encode a ≠ .null) (o : Option α) :
    optional decode (.ofOption encode o) = .ok o := by
  cases o with
  | none => rfl
  | some a =>
      have hoptional : optional decode (encode a) = (decode (encode a)).map some := by
        cases h : encode a with
        | null => exact absurd h (hnull a)
        | bool | int | float | text | array | object => rfl
      rw [Json.ofOption, hoptional, hdecode]
      rfl

theorem unsigned_natCast {bits n : Nat} (h : n < Nat.pow 2 bits) :
    unsigned bits (.int n) = .ok n := by
  have hle : (n : Int) ≤ Int.pow 2 bits - 1 := by
    have hlt : (n : Int) < (Nat.pow 2 bits : Nat) := Int.ofNat_lt.mpr h
    rw [Nat.pow_eq, Int.natCast_pow] at hlt
    exact Int.le_sub_one_of_lt hlt
  simp only [unsigned, intBetween, Int.natCast_nonneg, hle, and_self, if_true]
  rfl

theorem signed_int {bits : Nat} {i : Int} (hlow : -Int.pow 2 (bits - 1) ≤ i)
    (hhigh : i < Int.pow 2 (bits - 1)) : signed bits (.int i) = .ok i :=
  if_pos ⟨hlow, Int.le_sub_one_of_lt hhigh⟩

end Decoder

end TaskQueue
