import Mathlib.Data.List.TakeWhile
import TaskQueue.Proofs.Name.Channel

/-!
# Spellings of names

What a text names is its normal form, if that is an identifier. The spelling of a name is free in
the white space around it and in the case of its ASCII letters: the context that decides on the
final sigma looks at a small letter as it does at the capital one.
-/

namespace TaskQueue

namespace Text

variable {cs : List Char} {c : Char}

/-- What tells no small letter of ASCII from its capital letter does not see the case of a
letter. -/
theorem apply_toLower {β : Type} {f : Char → β}
    (h : ∀ n < 26, f (Char.ofNat (65 + n)).toLower = f (Char.ofNat (65 + n))) (c : Char) :
    f c.toLower = f c := by
  by_cases hupper : c.val ≥ 65 ∧ c.val ≤ 90
  · have hlow : 65 ≤ c.toNat := UInt32.le_iff_toNat_le.mp hupper.1
    have hhigh : c.toNat ≤ 90 := UInt32.le_iff_toNat_le.mp hupper.2
    have hletter := h (c.toNat - 65) (by omega)
    rwa [Nat.add_sub_cancel' hlow, Char.ofNat_toNat] at hletter
  · have hc : c.toLower = c := dif_neg hupper
    rw [hc]

theorem lowerChar_toLower : lowerChar c.toLower = lowerChar c :=
  apply_toLower (f := lowerChar) (by decide +kernel) c

theorem caseIgnorable_toLower : caseIgnorable.contains c.toLower = caseIgnorable.contains c :=
  apply_toLower (f := caseIgnorable.contains) (by decide +kernel) c

theorem cased_toLower : cased.contains c.toLower = cased.contains c :=
  apply_toLower (f := cased.contains) (by decide +kernel) c

theorem startsCased_map_toLower : startsCased (cs.map Char.toLower) = startsCased cs := by
  have hignorable : caseIgnorable.contains ∘ Char.toLower = caseIgnorable.contains :=
    funext fun _ => caseIgnorable_toLower
  rw [startsCased, startsCased, List.dropWhile_map, hignorable]
  cases cs.dropWhile caseIgnorable.contains with
  | nil => rfl
  | cons c cs => exact cased_toLower

theorem lowerBetween_map_toLower {before after : List Char} :
    lowerBetween (before.map Char.toLower) c.toLower (after.map Char.toLower) =
      lowerBetween before c after := by
  have hsigma : decide (c.toLower = 'Σ') = decide (c = 'Σ') :=
    apply_toLower (f := fun c => decide (c = 'Σ')) (by decide +kernel) c
  rw [decide_eq_decide] at hsigma
  simp only [lowerBetween, hsigma, startsCased_map_toLower, lowerChar_toLower]

theorem lowerAfter_map_toLower {before : List Char} :
    lowerAfter (before.map Char.toLower) (cs.map Char.toLower) = lowerAfter before cs := by
  induction cs generalizing before with
  | nil => rfl
  | cons c cs ih =>
      have hrest := @ih (c :: before)
      rw [List.map_cons] at hrest
      rw [List.map_cons, lowerAfter, lowerAfter, lowerBetween_map_toLower, hrest]

/-- The lower-case form of a text does not depend on the case of its ASCII letters. -/
theorem lowerCase_map_toLower : lowerCase (cs.map Char.toLower) = lowerCase cs :=
  @lowerAfter_map_toLower cs []

end Text

namespace Name

variable {kind text a b n : String}

/-- The text that is left of a name when it is trimmed and put into lower case. -/
def normalForm (text : String) : String :=
  String.ofList (Text.lowerCase (Text.trim text.toList))

/-- A text that names something: it is not blank, and what is left of it is an identifier. -/
def IsName (text : String) : Prop :=
  Text.isBlankText text = false ∧ isIdentifier (normalForm text).toList = true

/-- A text that names something that anyone may have. -/
def IsFree (text : String) : Prop :=
  IsName text ∧ normalForm text ∉ reserved

/-- Two texts that differ in the white space around them and the case of their ASCII letters, if
they differ at all. -/
def Alike (a b : String) : Prop :=
  (Text.trim a.toList).map Char.toLower = (Text.trim b.toList).map Char.toLower

instance : Decidable (IsName text) :=
  inferInstanceAs (Decidable (_ ∧ _))

instance : Decidable (IsFree text) :=
  inferInstanceAs (Decidable (_ ∧ _))

instance : Decidable (Alike a b) :=
  inferInstanceAs (Decidable (_ = _))

/-! ## What a text names -/

/-- A text is blank if and only if nothing is left of it when it is trimmed. -/
theorem isEmpty_trim : (Text.trim text.toList).isEmpty = Text.isBlankText text := by
  have hnil : (Text.trim text.toList).isEmpty = true ↔
      ∀ c ∈ text.toList, Text.isBlank c = true := by
    rw [List.isEmpty_iff, ← List.dropWhile_eq_nil_iff, Text.trim, Text.trimRight,
      List.reverse_eq_nil_iff, List.dropWhile_eq_nil_iff]
    refine ⟨fun h => List.eq_nil_iff_forall_not_mem.mpr fun c hc => ?_, fun h => by simp [h]⟩
    have hne : text.toList.dropWhile Text.isBlank ≠ [] := List.ne_nil_of_mem hc
    have hblank := h _ (List.mem_reverse.mpr (List.head_mem hne))
    rw [List.head_dropWhile_not Text.isBlank hne] at hblank
    cases hblank
  rw [Bool.eq_iff_iff, hnil, Text.isBlankText, List.all_eq_true]

theorem normalForm_of_isBlankText (h : Text.isBlankText text = true) : normalForm text = "" := by
  rw [← isEmpty_trim, List.isEmpty_iff] at h
  rw [normalForm, h]
  rfl

theorem normalize_eq_ok_iff : normalize kind text = .ok n ↔ IsName text ∧ n = normalForm text := by
  constructor
  · intro h
    have hform : n = normalForm text := by
      simp only [normalize] at h
      split at h
      · cases h
      · split at h <;> cases h
        rfl
    have hid : isIdentifier (normalForm text).toList = true := hform ▸ isIdentifier_of_normalize h
    refine ⟨⟨?_, hid⟩, hform⟩
    by_contra hblank
    rw [normalForm_of_isBlankText (Bool.not_eq_false _ ▸ hblank)] at hid
    cases hid
  · rintro ⟨⟨-, hid⟩, rfl⟩
    rw [normalForm, String.toList_ofList] at hid
    have hne : (Text.lowerCase (Text.trim text.toList)).isEmpty = false := by
      cases hcs : Text.lowerCase (Text.trim text.toList) with
      | nil => rw [hcs] at hid; cases hid
      | cons c cs => rfl
    simp only [normalize, hne, hid, Bool.false_eq_true, ↓reduceIte, normalForm]

theorem validate_eq_ok_iff : validate kind text = .ok n ↔ IsFree text ∧ n = normalForm text := by
  constructor
  · intro h
    obtain ⟨hnormal, hfree⟩ := normalize_of_validate h
    obtain ⟨hname, rfl⟩ := normalize_eq_ok_iff.mp hnormal
    exact ⟨⟨hname, hfree⟩, rfl⟩
  · rintro ⟨⟨hname, hfree⟩, rfl⟩
    rw [validate, normalize_eq_ok_iff.mpr ⟨hname, rfl⟩]
    exact if_neg hfree

theorem normalize_of_not_isName (h : ¬ IsName text) : ∃ e, normalize kind text = .error e := by
  cases hn : normalize kind text with
  | ok n => exact absurd (normalize_eq_ok_iff.mp hn).1 h
  | error e => exact ⟨e, rfl⟩

theorem validate_of_not_isFree (h : ¬ IsFree text) : ∃ e, validate kind text = .error e := by
  cases hn : validate kind text with
  | ok n => exact absurd (validate_eq_ok_iff.mp hn).1 h
  | error e => exact ⟨e, rfl⟩

/-! ## Spellings -/

theorem lowerCase_of_alike (h : Alike a b) :
    Text.lowerCase (Text.trim a.toList) = Text.lowerCase (Text.trim b.toList) := by
  rw [← Text.lowerCase_map_toLower, h, Text.lowerCase_map_toLower]

theorem normalize_of_alike (h : Alike a b) : normalize kind a = normalize kind b := by
  rw [normalize, normalize, lowerCase_of_alike h]

theorem validate_of_alike (h : Alike a b) : validate kind a = validate kind b := by
  rw [validate, validate, normalize_of_alike h]

/-- A spelling of a blank text is blank. -/
theorem isEmpty_trim_of_alike (h : Alike a b) :
    (Text.trim a.toList).isEmpty = (Text.trim b.toList).isEmpty := by
  rw [← List.isEmpty_map, h, List.isEmpty_map]

end Name

end TaskQueue
