import Mathlib.Data.List.Basic
import TaskQueue.Time.Printer
import TaskQueue.Time.Reader

/-!
# Timestamps that are read back

The form of entities is read back part by part: each part is read from the text that begins with
what is written for it, and leaves what stands behind it. A leap second is shown as the second 60,
which reads as the last second of its minute and a fraction of more than a second.
-/

namespace TaskQueue.Timestamp

variable {width n m : Nat} {digits rest : List Char} {c : Char}

/-! ## Digits -/

theorem isBlank_eq_false_of_isDigit (h : c.isDigit = true) : Text.isBlank c = false := by
  obtain ⟨hlow, hhigh⟩ := Char.isDigit_iff_toNat.mp h
  have h0 : '0'.toNat = 48 := rfl
  have h9 : '9'.toNat = 57 := rfl
  simp only [Text.isBlank, Text.CharClass.contains, Text.whiteSpace, List.any_cons, List.any_nil,
    Bool.or_false, Bool.or_eq_false_iff, Bool.and_eq_false_iff, decide_eq_false_iff_not]
  omega

theorem skipBlanks_cons (h : Text.isBlank c = false) : skipBlanks (c :: rest) = c :: rest := by
  rw [skipBlanks, List.dropWhile_cons_of_neg (by simp [h])]

theorem skipBlanks_digits (hdigits : ∀ c ∈ digits, c.isDigit = true) (hne : digits ≠ []) :
    skipBlanks (digits ++ rest) = digits ++ rest := by
  cases digits with
  | nil => exact absurd rfl hne
  | cons c digits =>
      exact skipBlanks_cons (isBlank_eq_false_of_isDigit (hdigits c List.mem_cons_self))

/-- Digits are read up to the width or to what is no digit, whichever comes first. -/
theorem readDigits_append (hdigits : ∀ c ∈ digits, c.isDigit = true) (hne : digits ≠ [])
    (hwidth : digits.length ≤ width)
    (hend : (rest.take (width - digits.length)).takeWhile Char.isDigit = []) :
    readDigits width (digits ++ rest) = some (digits, rest) := by
  have htake : ((digits ++ rest).take width).takeWhile Char.isDigit = digits := by
    rw [List.take_append, List.take_of_length_le hwidth, List.takeWhile_append_of_pos hdigits, hend,
      List.append_nil]
  unfold readDigits
  rw [htake]
  cases digits with
  | nil => exact absurd rfl hne
  | cons c digits => simp only [List.drop_left]

theorem readDigits_exact (hdigits : ∀ c ∈ digits, c.isDigit = true) (hne : digits ≠ [])
    (hwidth : digits.length = width) : readDigits width (digits ++ rest) = some (digits, rest) :=
  readDigits_append hdigits hne (Nat.le_of_eq hwidth) (by simp [hwidth])

theorem readDigits_before (hdigits : ∀ c ∈ digits, c.isDigit = true) (hne : digits ≠ [])
    (hwidth : digits.length ≤ width) (hc : c.isDigit = false) :
    readDigits width (digits ++ c :: rest) = some (digits, c :: rest) := by
  refine readDigits_append hdigits hne hwidth ?_
  cases width - digits.length with
  | zero => rfl
  | succ n => rw [List.take_succ_cons, List.takeWhile_cons_of_neg (by simp [hc])]

/-! ## Numbers -/

theorem isDigit_of_mem_padded (h : c ∈ padded width n) : c.isDigit = true := by
  simp only [padded, List.mem_append, List.mem_replicate] at h
  rcases h with ⟨-, rfl⟩ | h
  · rfl
  · exact Nat.isDigit_of_mem_toDigits (by decide) (by decide) h

theorem padded_ne_nil : padded width n ≠ [] :=
  List.append_ne_nil_of_right_ne_nil _ Nat.toDigits_ne_nil

theorem length_padded (hpos : 0 < width) (h : n < Nat.pow 10 width) :
    (padded width n).length = width := by
  have hle := (Nat.length_toDigits_le_iff (n := n) (by decide : 1 < 10) hpos).mpr h
  rw [padded, List.length_append, List.length_replicate, Nat.sub_add_cancel hle]

theorem ofDigitChars_padded : Nat.ofDigitChars 10 (padded width n) 0 = n := by
  rw [padded, Nat.ofDigitChars_append, Nat.ofDigitChars_replicate_zero, Nat.mul_zero,
    Nat.ofDigitChars_ten_toDigits]

theorem readNumber_padded (hpos : 0 < width) (h : n < Nat.pow 10 width) :
    readNumber width (padded width n ++ rest) = some (n, rest) := by
  have hdigits : ∀ c ∈ padded width n, c.isDigit = true := fun _ => isDigit_of_mem_padded
  simp only [readNumber, skipBlanks_digits hdigits padded_ne_nil,
    readDigits_exact hdigits padded_ne_nil (length_padded hpos h), Option.map_some,
    ofDigitChars_padded]

theorem readNumber_two (h : n < 100) : readNumber 2 (padded 2 n ++ rest) = some (n, rest) :=
  readNumber_padded (by decide) h

theorem readMark_cons (h : Text.isBlank c = false) : readMark c (c :: rest) = some rest := by
  simp only [readMark, skipBlanks_cons h, if_true]

/-! ## Dates -/

theorem readYear_of_isDigit (h : c.isDigit = true) :
    readYear (c :: rest) = (readDigits 4 (c :: rest)).map fun (digits, rest) =>
      ((Nat.ofDigitChars 10 digits 0 : Int), rest) := by
  have hminus : c ≠ '-' := by rintro rfl; cases h
  have hplus : c ≠ '+' := by rintro rfl; cases h
  rw [readYear, skipBlanks_cons (isBlank_eq_false_of_isDigit h)]
  split <;> simp_all

theorem readYear_yearDigits (year : Int) :
    readYear (yearDigits year ++ '-' :: rest) = some (year, '-' :: rest) := by
  have hdigits (n : Nat) : ∀ c ∈ padded 4 n, c.isDigit = true := fun _ => isDigit_of_mem_padded
  have hsigned (n : Nat) :
      readDigits (padded 4 n ++ '-' :: rest).length (padded 4 n ++ '-' :: rest) =
        some (padded 4 n, '-' :: rest) :=
    readDigits_before (hdigits n) padded_ne_nil (by simp) rfl
  unfold yearDigits
  split
  case isTrue hshort =>
    have hread : readDigits 4 (padded 4 year.toNat ++ '-' :: rest) =
        some (padded 4 year.toNat, '-' :: rest) :=
      readDigits_exact (hdigits _) padded_ne_nil
        (length_padded (by decide) (by simp only [Nat.pow_eq]; omega))
    have hyear : ((Nat.ofDigitChars 10 (padded 4 year.toNat) 0 : Nat) : Int) = year := by
      rw [ofDigitChars_padded]; omega
    cases hcs : padded 4 year.toNat with
    | nil => exact absurd hcs padded_ne_nil
    | cons c cs =>
        have hc : c.isDigit = true := hdigits _ c (hcs ▸ List.mem_cons_self)
        rw [List.cons_append, readYear_of_isDigit hc, ← List.cons_append, ← hcs, hread]
        simp only [Option.map_some, hyear]
  case isFalse =>
    split
    case isTrue hneg =>
      have hyear : -((Nat.ofDigitChars 10 (padded 4 year.natAbs) 0 : Nat) : Int) = year := by
        rw [ofDigitChars_padded]; omega
      rw [List.cons_append, readYear, skipBlanks_cons (by decide)]
      simp only [hsigned, Option.map_some, hyear]
    case isFalse hneg =>
      have hyear : ((Nat.ofDigitChars 10 (padded 4 year.natAbs) 0 : Nat) : Int) = year := by
        rw [ofDigitChars_padded]; omega
      rw [List.cons_append, readYear, skipBlanks_cons (by decide)]
      simp only [hsigned, Option.map_some, hyear]

theorem daysInMonth_le (year : Int) (month : Nat) : daysInMonth year month ≤ 31 := by
  unfold daysInMonth
  split
  case h_12 => split <;> decide
  all_goals decide

theorem month_le_of_day_pos {year : Int} (h : 0 < daysInMonth year n) : n ≤ 12 := by
  unfold daysInMonth at h
  split at h <;> omega

theorem readDate_dateChars (t : Timestamp) (h : isYear t.date.year = true) :
    readDate (t.dateChars ++ rest) = some (t.date, rest) := by
  have hmonth : t.date.month ≤ 12 :=
    month_le_of_day_pos (Nat.lt_of_lt_of_le t.date.day_pos t.date.day_le)
  have hday : t.date.day ≤ 31 := Nat.le_trans t.date.day_le (daysInMonth_le ..)
  have hdate : Date.ofParts? t.date.year t.date.month t.date.day = some t.date :=
    dif_pos ⟨t.date.day_pos, t.date.day_le⟩
  simp only [readDate, dateChars, List.append_assoc, List.cons_append, readYear_yearDigits,
    readMark_cons (by decide : Text.isBlank '-' = false),
    readNumber_two (Nat.lt_of_le_of_lt hmonth (by decide)),
    readNumber_two (Nat.lt_of_le_of_lt hday (by decide)), hdate, h, Option.bind_eq_bind,
    Option.bind_some]
  rfl

/-! ## Times of day -/

theorem nanosOfFraction_padded (hpos : 0 < width) (h : m < Nat.pow 10 width) :
    nanosOfFraction (padded width m) = m * Nat.pow 10 (9 - width) := by
  rw [nanosOfFraction, ofDigitChars_padded, length_padded hpos h]

theorem readFraction_padded (hpos : 0 < width) (hwidth : width ≤ 9) (h : m < Nat.pow 10 width) :
    readFraction ('.' :: (padded width m ++ 'Z' :: rest)) =
      some (m * Nat.pow 10 (9 - width), 'Z' :: rest) := by
  have hread : readDigits 9 (padded width m ++ 'Z' :: rest) =
      some (padded width m, 'Z' :: rest) :=
    readDigits_before (fun _ => isDigit_of_mem_padded) padded_ne_nil
      (by rw [length_padded hpos h]; exact hwidth) rfl
  simp only [readFraction, hread, Option.bind_eq_bind, Option.bind_some,
    nanosOfFraction_padded hpos h]
  rfl

/-- The digits that are left out of a fraction are zeros. -/
theorem readFraction_fractionChars (h : n < nanosPerSecond) :
    readFraction (fractionChars n ++ 'Z' :: rest) = some (n, 'Z' :: rest) := by
  simp only [nanosPerSecond] at h
  unfold fractionChars
  split
  case isTrue hzero => rw [hzero]; rfl
  case isFalse =>
    split
    case isTrue hmillis =>
      have hn : n / 1000000 * Nat.pow 10 (9 - 3) = n :=
        Nat.div_mul_cancel (Nat.dvd_of_mod_eq_zero hmillis)
      rw [List.cons_append, readFraction_padded (by decide) (by decide)
        (by simp only [Nat.pow_eq]; omega), hn]
    case isFalse =>
      split
      case isTrue hmicros =>
        have hn : n / 1000 * Nat.pow 10 (9 - 6) = n :=
          Nat.div_mul_cancel (Nat.dvd_of_mod_eq_zero hmicros)
        rw [List.cons_append, readFraction_padded (by decide) (by decide)
          (by simp only [Nat.pow_eq]; omega), hn]
      case isFalse =>
        have hn : n * Nat.pow 10 (9 - 9) = n := Nat.mul_one n
        rw [List.cons_append, readFraction_padded (by decide) (by decide)
          (by simp only [Nat.pow_eq]; omega), hn]

theorem shownSecond_eq (t : Timestamp) :
    t.second % 60 = 59 ∧ t.shownSecond = 60 ∧ t.shownNanos + nanosPerSecond = t.nanos ∨
      t.shownSecond = t.second % 60 ∧ t.shownNanos = t.nanos := by
  have hnanos := t.nanos_lt
  simp only [shownSecond, shownNanos, nanosPerSecond] at hnanos ⊢
  omega

/-- The second that is shown, with the fraction that is shown, stands for the time of day. -/
theorem readTime_timeChars (t : Timestamp) :
    readTime (t.timeChars ++ (fractionChars t.shownNanos ++ 'Z' :: rest)) =
      some (t.second, t.nanos, 'Z' :: rest) := by
  have hsecond := t.second_lt
  have hshown := t.shownSecond_eq
  have hhour : t.second / 3600 < 24 := by simp only [secondsPerDay] at hsecond; omega
  have hminute : t.second / 60 % 60 < 60 := Nat.mod_lt _ (by decide)
  have hle : ¬ 60 < t.shownSecond := by omega
  have hminutes : t.second / 3600 * 60 + t.second / 60 % 60 = t.second / 60 := by omega
  have hcolon : Text.isBlank ':' = false := by decide
  have hfraction : readFraction (fractionChars t.shownNanos ++ 'Z' :: rest) =
      some (t.shownNanos, 'Z' :: rest) := readFraction_fractionChars (Nat.mod_lt _ (by decide))
  simp only [readTime, timeChars, List.append_assoc, List.cons_append, readMark_cons hcolon,
    readNumber_two (Nat.lt_trans hhour (by decide)),
    readNumber_two (Nat.lt_trans hminute (by decide)),
    readNumber_two (Nat.lt_of_le_of_lt (Nat.not_lt.mp hle) (by decide)),
    hfraction, Option.bind_eq_bind, Option.bind_some, Nat.not_le.mpr hhour, Nat.not_le.mpr hminute,
    hle, hminutes, decide_false, Bool.or_self, Bool.false_eq_true, if_false]
  rcases hshown with ⟨hlast, hsixty, hnanos⟩ | ⟨hsecs, hnanos⟩
  · have hday : t.second / 60 * 60 + 59 = t.second := by omega
    rw [if_pos hsixty, hday, hnanos]
    rfl
  · have hday : t.second / 60 * 60 + t.shownSecond = t.second := by omega
    rw [if_neg (by omega), hday, hnanos]
    rfl

/-! ## Timestamps -/

theorem ofLocal?_zero {t : Timestamp} (h : isYear t.date.year = true) :
    ofLocal? t.date t.second t.nanos 0 = some t := by
  have hsecond := t.second_lt
  simp only [secondsPerDay] at hsecond
  have hpast : ¬ (t.second : Int) < 0 := by omega
  have hbefore : ¬ ((secondsPerDay : Nat) : Int) ≤ t.second := by simp only [secondsPerDay]; omega
  have hparts : ofParts? t.date t.second t.nanos = some t := dif_pos ⟨t.second_lt, t.nanos_lt⟩
  simp only [ofLocal?, Int.sub_zero, hpast, hbefore, if_false, h, if_true, Int.toNat_natCast,
    hparts]

/-- A timestamp of a year that can be read is read from its text as it was. -/
theorem parse?_render {t : Timestamp} (h : isYear t.date.year = true) :
    parse? t.render = some t := by
  have hseparator (cs : List Char) : readSeparator ('T' :: cs) = some cs := rfl
  have hoffset : readOffset ['Z'] = some (0, []) := by decide
  simp only [parse?, render, String.toList_ofList, List.append_assoc, List.cons_append,
    readDate_dateChars t h, hseparator, readTime_timeChars, hoffset, ofLocal?_zero h,
    Option.bind_eq_bind, Option.bind_some]
  rfl

theorem date_of_ofParts? {date : Date} {second nanos : Nat} {t : Timestamp}
    (h : ofParts? date second nanos = some t) : t.date = date := by
  unfold ofParts? at h
  split at h <;> cases h
  rfl

theorem isYear_of_ofLocal? {date : Date} {second nanos : Nat} {offset : Int} {t : Timestamp}
    (h : ofLocal? date second nanos offset = some t) : isYear t.date.year = true := by
  have hcheck (date : Date) (universal : Nat)
      (h : (if isYear date.year then ofParts? date universal nanos else none) = some t) :
      isYear t.date.year = true := by
    split at h
    · rwa [date_of_ofParts? h]
    · cases h
  exact hcheck _ _ h

/-- Every timestamp that is read has a year that can be read. -/
theorem isYear_of_parse? {s : String} {t : Timestamp} (h : parse? s = some t) :
    isYear t.date.year = true := by
  simp only [parse?, Option.bind_eq_bind, Option.bind_eq_some_iff] at h
  obtain ⟨_, -, _, -, _, -, _, -, h⟩ := h
  split at h
  · cases h
  · exact isYear_of_ofLocal? h

end TaskQueue.Timestamp
