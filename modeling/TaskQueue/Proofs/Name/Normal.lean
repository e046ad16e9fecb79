import TaskQueue.Proofs.Name.Spelling

/-!
# Names in normal form

A name is in normal form when it is a small letter of ASCII, followed by at most 62 small letters,
digits and underscores. Putting a text into lower case leaves no capital letter of ASCII in it, not
even of letters beyond ASCII, so what a text names is always in normal form; and a name in normal
form has no white space and no capital letter to lose, so it names itself.
-/

namespace TaskQueue

namespace Text

variable {cs before after : List Char} {c d : Char}

/-! ## Lower case leaves no capital letter -/

theorem isUpper_iff : c.isUpper = true ↔ 65 ≤ c.toNat ∧ c.toNat ≤ 90 := by
  delta Char.isUpper
  simp only [decide_eq_true_eq, UInt32.le_iff_toNat_le, ge_iff_le]
  rfl

theorem isUpper_of_lt_toNat (h : 90 < c.toNat) : c.isUpper = false := by
  rw [Bool.eq_false_iff, ne_eq, isUpper_iff]
  omega

theorem toLower_of_small (h : c.isUpper = false) : c.toLower = c :=
  dif_neg (of_decide_eq_false h)

theorem isUpper_toLower : c.toLower.isUpper = false := by
  by_cases hupper : c.isUpper = true
  · obtain ⟨hlow, hhigh⟩ := isUpper_iff.mp hupper
    have hletters : ∀ n < 26, (Char.ofNat (65 + n)).toLower.isUpper = false := by decide
    have hletter := hletters (c.toNat - 65) (by omega)
    rwa [Nat.add_sub_cancel' hlow, Char.ofNat_toNat] at hletter
  · rw [toLower_of_small (Bool.eq_false_iff.mpr hupper)]
    exact Bool.eq_false_iff.mpr hupper

/-- No capital letter has a small letter that is, or comes before, a capital letter of ASCII. -/
theorem lt_offset_of_mem_capitalRuns :
    ∀ run ∈ capitalRuns, 90 < (run.first : Int) + run.offset := by
  decide +kernel

theorem isUpper_ofNat {n : Nat} (h : 90 < n) : (Char.ofNat n).isUpper = false := by
  by_cases hvalid : n.isValidChar
  · refine isUpper_of_lt_toNat ?_
    rwa [Char.ofNat, dif_pos hvalid]
  · have hzero : Char.ofNat n = '\x00' := dif_neg hvalid
    rw [hzero]
    rfl

theorem isUpper_of_mem_lowerChar (h : d ∈ lowerChar c) : d.isUpper = false := by
  unfold lowerChar at h
  split at h
  · obtain rfl := List.mem_singleton.mp h
    exact isUpper_toLower
  · split at h
    · rcases List.mem_pair.mp h with rfl | rfl <;> rfl
    · split at h
      next run hrun =>
        obtain rfl := List.mem_singleton.mp h
        have hoffset := lt_offset_of_mem_capitalRuns run (List.mem_of_find?_eq_some hrun)
        have hcontains := List.find?_some hrun
        simp only [CaseRun.contains, Bool.and_eq_true, decide_eq_true_eq] at hcontains
        exact isUpper_ofNat (by omega)
      next hascii _ _ =>
        obtain rfl := List.mem_singleton.mp h
        exact isUpper_of_lt_toNat (by omega)

theorem isUpper_of_mem_lowerBetween (h : d ∈ lowerBetween before c after) : d.isUpper = false := by
  unfold lowerBetween at h
  split at h
  · split at h <;>
    · obtain rfl := List.mem_singleton.mp h
      rfl
  · exact isUpper_of_mem_lowerChar h

theorem isUpper_of_mem_lowerAfter (h : d ∈ lowerAfter before cs) : d.isUpper = false := by
  induction cs generalizing before with
  | nil => cases h
  | cons c cs ih =>
      rcases List.mem_append.mp h with h | h
      · exact isUpper_of_mem_lowerBetween h
      · exact ih h

/-! ## What is small already, and what is not blank -/

theorem lowerBetween_of_small (hascii : c.val ≤ 127) (hsmall : c.isUpper = false) :
    lowerBetween before c after = [c] := by
  have hlow : c.toNat < 0x80 := Nat.lt_succ_of_le (UInt32.le_iff_toNat_le.mp hascii)
  have hsigma : c ≠ 'Σ' := by
    rintro rfl
    exact absurd hlow (by decide)
  rw [lowerBetween, if_neg hsigma, lowerChar, if_pos hlow, toLower_of_small hsmall]

theorem lowerAfter_of_small (h : ∀ c ∈ cs, c.val ≤ 127 ∧ c.isUpper = false) :
    lowerAfter before cs = cs := by
  induction cs generalizing before with
  | nil => rfl
  | cons c cs ih =>
      obtain ⟨⟨hascii, hsmall⟩, hcs⟩ := List.forall_mem_cons.mp h
      rw [lowerAfter, lowerBetween_of_small hascii hsmall, ih hcs]
      rfl

theorem lowerAfter_ne_nil (h : cs ≠ []) : lowerAfter before cs ≠ [] := by
  have hbetween (before c after) : lowerBetween before c after ≠ [] := by
    unfold lowerBetween lowerChar
    split_ifs <;> first | exact List.cons_ne_nil _ _ | (split <;> exact List.cons_ne_nil _ _)
  cases cs with
  | nil => exact absurd rfl h
  | cons c cs => exact fun hnil => hbetween _ _ _ (List.append_eq_nil_iff.mp hnil).1

theorem dropWhile_of_not {p : Char → Bool} (h : ∀ c ∈ cs, p c = false) : cs.dropWhile p = cs := by
  cases cs with
  | nil => rfl
  | cons c cs => exact List.dropWhile_cons_of_neg (by simp [h c List.mem_cons_self])

theorem trim_of_not_blank (h : ∀ c ∈ cs, isBlank c = false) : trim cs = cs := by
  rw [trim, dropWhile_of_not h, trimRight,
    dropWhile_of_not fun c hc => h c (List.mem_reverse.mp hc), List.reverse_reverse]

theorem trimRight_append (h : ∀ c ∈ after, isBlank c = true) :
    trimRight (cs ++ after) = trimRight cs := by
  rw [trimRight, trimRight, List.reverse_append,
    List.dropWhile_append_of_pos fun c hc => h c (List.mem_reverse.mp hc)]

/-- Trimming does not see the white space around a text. -/
theorem trim_append (hbefore : ∀ c ∈ before, isBlank c = true)
    (hafter : ∀ c ∈ after, isBlank c = true) : trim (before ++ cs ++ after) = trim cs := by
  rw [trim, trim, List.append_assoc, List.dropWhile_append_of_pos hbefore, List.dropWhile_append]
  split
  next hblank =>
    rw [List.isEmpty_iff.mp hblank, List.dropWhile_eq_nil_iff.mpr hafter]
  next => exact trimRight_append hafter

theorem trim_map_toLower : trim (cs.map Char.toLower) = (trim cs).map Char.toLower := by
  have hblank : isBlank ∘ Char.toLower = isBlank :=
    funext (apply_toLower (f := isBlank) (by decide))
  simp only [trim, trimRight, List.dropWhile_map, hblank, ← List.map_reverse]

end Text

namespace Name

variable {kind text n : String} {e : NameError} {c : Char}

/-- A name in normal form: a small letter of ASCII, then at most 62 small letters, digits and
underscores. -/
def IsNormal (name : String) : Prop :=
  ∃ c cs, name.toList = c :: cs ∧ c.isLower = true ∧ cs.length ≤ 62 ∧
    ∀ d ∈ cs, d.isLower = true ∨ d.isDigit = true ∨ d = '_'

theorem isUpper_of_isLower (h : c.isLower = true) : c.isUpper = false := by
  delta Char.isLower at h
  simp only [Bool.and_eq_true, decide_eq_true_eq] at h
  exact Text.isUpper_of_lt_toNat (Nat.lt_of_lt_of_le (by decide) (UInt32.le_iff_toNat_le.mp h.1))

theorem isUpper_of_isDigit (h : c.isDigit = true) : c.isUpper = false := by
  obtain ⟨-, hhigh⟩ := Char.isDigit_iff_toNat.mp h
  have hnine : '9'.toNat = 57 := rfl
  rw [Bool.eq_false_iff, ne_eq, Text.isUpper_iff]
  omega

theorem isAlpha_of_small (h : c.isUpper = false) : c.isAlpha = c.isLower := by
  have hcases : c.isAlpha = (c.isUpper || c.isLower) := rfl
  rw [hcases, h, Bool.false_or]

/-- Apart from capital letters, what stands in an identifier is what stands in a normal name. -/
theorem isIdentifierRest_iff (h : c.isUpper = false) :
    isIdentifierRest c = true ↔ c.isLower = true ∨ c.isDigit = true ∨ c = '_' := by
  simp [isIdentifierRest, Char.isAlphanum, isAlpha_of_small h, or_assoc]

/-- A name is in normal form if and only if it is an identifier without capital letters. -/
theorem isNormal_iff :
    IsNormal n ↔ isIdentifier n.toList = true ∧ ∀ c ∈ n.toList, c.isUpper = false := by
  unfold IsNormal
  constructor
  · rintro ⟨c, cs, hn, hc, hlength, hcs⟩
    have hsmall : ∀ d ∈ cs, d.isUpper = false := by
      intro d hd
      rcases hcs d hd with h | h | rfl
      · exact isUpper_of_isLower h
      · exact isUpper_of_isDigit h
      · rfl
    rw [hn]
    refine ⟨?_, List.forall_mem_cons.mpr ⟨isUpper_of_isLower hc, hsmall⟩⟩
    simp only [isIdentifier, Bool.and_eq_true, decide_eq_true_eq, List.all_eq_true]
    have halpha := (isAlpha_of_small (isUpper_of_isLower hc)).trans hc
    exact ⟨⟨halpha, Nat.lt_succ_of_le hlength⟩,
      fun d hd => (isIdentifierRest_iff (hsmall d hd)).mpr (hcs d hd)⟩
  · rintro ⟨hid, hsmall⟩
    cases hn : n.toList with
    | nil => rw [hn] at hid; cases hid
    | cons c cs =>
        rw [hn] at hid hsmall
        obtain ⟨hc, hcs⟩ := List.forall_mem_cons.mp hsmall
        simp only [isIdentifier, Bool.and_eq_true, decide_eq_true_eq, List.all_eq_true] at hid
        obtain ⟨⟨halpha, hlength⟩, hrest⟩ := hid
        rw [isAlpha_of_small hc] at halpha
        refine ⟨c, cs, rfl, halpha, Nat.le_of_lt_succ hlength, ?_⟩
        exact fun d hd => (isIdentifierRest_iff (hcs d hd)).mp (hrest d hd)

theorem isNormal_normalForm_iff :
    IsNormal (normalForm text) ↔ isIdentifier (normalForm text).toList = true := by
  refine isNormal_iff.trans (and_iff_left fun c hc => ?_)
  rw [normalForm, String.toList_ofList] at hc
  exact Text.isUpper_of_mem_lowerAfter hc

theorem isIdentifierRest_of_mem {cs : List Char} (h : isIdentifier cs = true) (hc : c ∈ cs) :
    isIdentifierRest c = true := by
  cases cs with
  | nil => cases hc
  | cons d cs =>
      simp only [isIdentifier, Bool.and_eq_true, decide_eq_true_eq, List.all_eq_true] at h
      rcases List.mem_cons.mp hc with rfl | hc
      · exact isIdentifierRest_of_isAlpha h.1.1
      · exact h.2 c hc

/-- No character of an identifier is white space. -/
theorem isBlank_of_isIdentifierRest (h : isIdentifierRest c = true) : Text.isBlank c = false := by
  have hascii : c.toNat < 128 :=
    Nat.lt_succ_of_le (UInt32.le_iff_toNat_le.mp (val_le_of_isIdentifierRest h))
  have hletters : ∀ n < 128, isIdentifierRest (Char.ofNat n) = true →
      Text.isBlank (Char.ofNat n) = false := by decide
  have hletter := hletters c.toNat hascii
  rw [Char.ofNat_toNat] at hletter
  exact hletter h

/-- A name in normal form is what is left of itself. -/
theorem normalForm_of_isNormal (h : IsNormal n) : normalForm n = n := by
  obtain ⟨hid, hsmall⟩ := isNormal_iff.mp h
  obtain ⟨-, hascii⟩ := bounds_of_isIdentifier hid
  have hblank : ∀ c ∈ n.toList, Text.isBlank c = false := fun c hc =>
    isBlank_of_isIdentifierRest (isIdentifierRest_of_mem hid hc)
  rw [normalForm, Text.trim_of_not_blank hblank, Text.lowerCase,
    Text.lowerAfter_of_small fun c hc => ⟨hascii c hc, hsmall c hc⟩, String.ofList_toList]

/-! ## What a text names -/

/-- A text names something if and only if what is left of it is in normal form. -/
theorem normalize_eq_ok_iff_isNormal :
    normalize kind text = .ok n ↔ IsNormal (normalForm text) ∧ n = normalForm text := by
  rw [normalize_eq_ok_iff, IsName, isNormal_normalForm_iff]
  refine and_congr_left fun _ => and_iff_right_of_imp fun hid => ?_
  rw [Bool.eq_false_iff]
  intro hblank
  rw [normalForm_of_isBlankText hblank] at hid
  cases hid

theorem isNormal_of_normalize (h : normalize kind text = .ok n) : IsNormal n := by
  obtain ⟨hnormal, rfl⟩ := normalize_eq_ok_iff_isNormal.mp h
  exact hnormal

theorem normalize_of_isNormal (h : IsNormal n) : normalize kind n = .ok n := by
  rw [normalize_eq_ok_iff_isNormal, normalForm_of_isNormal h]
  exact ⟨h, rfl⟩

/-- A text that names nothing is blank, or what is left of it is no name in normal form. -/
theorem normalize_eq_error_iff :
    normalize kind text = .error e ↔
      Text.isBlankText text = true ∧ e = .empty kind ∨
      Text.isBlankText text = false ∧ ¬ IsNormal (normalForm text) ∧
        e = .invalid kind (normalForm text) := by
  have hempty : (Text.lowerCase (Text.trim text.toList)).isEmpty = Text.isBlankText text := by
    rw [← isEmpty_trim]
    cases hcs : Text.trim text.toList with
    | nil => rfl
    | cons c cs =>
        exact List.isEmpty_eq_false_iff.mpr (Text.lowerAfter_ne_nil (List.cons_ne_nil c cs))
  rw [isNormal_normalForm_iff, normalForm, String.toList_ofList]
  simp only [normalize, hempty]
  cases Text.isBlankText text <;> cases isIdentifier (Text.lowerCase (Text.trim text.toList)) <;>
    simp [eq_comm]

theorem normalize_of_map_toLower {other : String}
    (h : other.toList.map Char.toLower = text.toList.map Char.toLower) :
    normalize kind other = normalize kind text := by
  refine normalize_of_alike ?_
  rw [Alike, ← Text.trim_map_toLower, ← Text.trim_map_toLower, h]

theorem normalize_append {before after : String} (hbefore : Text.isBlankText before = true)
    (hafter : Text.isBlankText after = true) :
    normalize kind (before ++ text ++ after) = normalize kind text := by
  refine normalize_of_alike ?_
  rw [Text.isBlankText, List.all_eq_true] at hbefore hafter
  rw [Alike, String.toList_append, String.toList_append, Text.trim_append hbefore hafter]

theorem validate_eq_ok_iff_normalize :
    validate kind text = .ok n ↔ normalize kind text = .ok n ∧ n ∉ reserved := by
  rw [validate_eq_ok_iff, normalize_eq_ok_iff, IsFree]
  constructor
  · rintro ⟨⟨hname, hfree⟩, rfl⟩
    exact ⟨⟨hname, rfl⟩, hfree⟩
  · rintro ⟨⟨hname, rfl⟩, hfree⟩
    exact ⟨⟨hname, hfree⟩, rfl⟩

/-- Whatever the text, a name that it has is in normal form, and a name in normal form is its own.
White space around a text and the case of its ASCII letters do not matter. A text that has no name
is reported as blank, or with what is left of it. A text has a name that is not reserved if and only
if it has a name other than the two reserved ones, which then has itself as its name. -/
theorem normalize_retracts (kind text : String) :
    (∀ n, normalize kind text = .ok n → IsNormal n ∧ normalize kind n = .ok n) ∧
    (IsNormal text → normalize kind text = .ok text) ∧
    (∀ before after, Text.isBlankText before = true → Text.isBlankText after = true →
      normalize kind (before ++ text ++ after) = normalize kind text) ∧
    (∀ other : String, other.toList.map Char.toLower = text.toList.map Char.toLower →
      normalize kind other = normalize kind text) ∧
    (∀ e, normalize kind text = .error e ↔
      Text.isBlankText text = true ∧ e = .empty kind ∨
      Text.isBlankText text = false ∧ ¬ IsNormal (normalForm text) ∧
        e = .invalid kind (normalForm text)) ∧
    (∀ n, validate kind text = .ok n ↔
      normalize kind text = .ok n ∧ n ≠ "default" ∧ n ≠ "cleanup") ∧
    (∀ n, validate kind text = .ok n → validate kind n = .ok n) := by
  refine ⟨fun n h => ?_, normalize_of_isNormal, fun _ _ => normalize_append,
    fun _ => normalize_of_map_toLower, fun _ => normalize_eq_error_iff, fun n => ?_, fun n h => ?_⟩
  · have hnormal := isNormal_of_normalize h
    exact ⟨hnormal, normalize_of_isNormal hnormal⟩
  · simp [validate_eq_ok_iff_normalize, reserved, defaultNamespace, cleanupNamespace]
  · obtain ⟨hname, hfree⟩ := validate_eq_ok_iff_normalize.mp h
    have hnormal := isNormal_of_normalize hname
    exact validate_eq_ok_iff_normalize.mpr ⟨normalize_of_isNormal hnormal, hfree⟩

end Name

end TaskQueue
