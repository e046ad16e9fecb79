/-!
# Calendar dates

Dates of the Gregorian calendar, extended to all years. A date is kept as its year, month and day;
the number of its day is needed only for differences.
-/

namespace TaskQueue

def isLeapYear (year : Int) : Bool :=
  year % 4 == 0 && (year % 100 != 0 || year % 400 == 0)

/-- The days of a month, none for a number that is not a month. -/
def daysInMonth (year : Int) (month : Nat) : Nat :=
  match month with
  | 1 | 3 | 5 | 7 | 8 | 10 | 12 => 31
  | 4 | 6 | 9 | 11 => 30
  | 2 => if isLeapYear year then 29 else 28
  | _ => 0

structure Date where
  year : Int
  month : Nat
  day : Nat
  day_pos : 1 ≤ day
  day_le : day ≤ daysInMonth year month
deriving DecidableEq, Repr

namespace Date

def ofParts? (year : Int) (month day : Nat) : Option Date :=
  if h : 1 ≤ day ∧ day ≤ daysInMonth year month then some ⟨year, month, day, h.1, h.2⟩ else none

def epoch : Date := ⟨1970, 1, 1, by decide, by decide⟩

instance : Inhabited Date := ⟨epoch⟩

def daysBeforeMonth (year : Int) : Nat → Nat
  | 0 | 1 => 0
  | month + 1 => daysBeforeMonth year month + daysInMonth year month

/-- The days before a year, counted from the year zero. -/
def daysBeforeYear (year : Int) : Int :=
  let past := year - 1
  365 * year + past / 4 - past / 100 + past / 400

/-- The number of a date's day. The numbers of consecutive days are consecutive. -/
def dayNumber (d : Date) : Int :=
  daysBeforeYear d.year + daysBeforeMonth d.year d.month + d.day

def next (d : Date) : Date :=
  match ofParts? d.year d.month (d.day + 1) with
  | some next => next
  | none =>
    match ofParts? d.year (d.month + 1) 1 with
    | some next => next
    | none => ⟨d.year + 1, 1, 1, by decide, by simp [daysInMonth]⟩

def previous (d : Date) : Date :=
  match ofParts? d.year d.month (d.day - 1) with
  | some previous => previous
  | none =>
    match ofParts? d.year (d.month - 1) (daysInMonth d.year (d.month - 1)) with
    | some previous => previous
    | none => ⟨d.year - 1, 12, 31, by decide, by simp [daysInMonth]⟩

end Date

end TaskQueue
