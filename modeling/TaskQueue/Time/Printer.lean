import TaskQueue.Time.Timestamp

/-!
# Timestamps as texts

The texts of a timestamp: the form of entities, with a `T` and a `Z` and the fewest digits of 0, 3,
6 or 9 that show the fraction exactly; the form of messages, which separates the parts by spaces;
and the form of statement arguments, which always shows microseconds.
-/

namespace TaskQueue.Timestamp

def padded (width n : Nat) : List Char :=
  let digits := Nat.toDigits 10 n
  List.replicate (width - digits.length) '0' ++ digits

/-- A year: four digits from 0 to 9999, else a sign and at least four digits. -/
def yearDigits (year : Int) : List Char :=
  if 0 ≤ year ∧ year ≤ 9999 then padded 4 year.toNat
  else (if year < 0 then '-' else '+') :: padded 4 year.natAbs

def dateChars (t : Timestamp) : List Char :=
  yearDigits t.date.year ++ '-' :: padded 2 t.date.month ++ '-' :: padded 2 t.date.day

/-- The second of the minute that is shown, `60` in a leap second. -/
def shownSecond (t : Timestamp) : Nat :=
  t.second % 60 + t.nanos / nanosPerSecond

def shownNanos (t : Timestamp) : Nat :=
  t.nanos % nanosPerSecond

/-- The time of day to the second, its parts separated by colons. -/
def timeChars (t : Timestamp) : List Char :=
  padded 2 (t.second / 3600) ++ ':' :: padded 2 (t.second / 60 % 60) ++ ':' ::
    padded 2 t.shownSecond

/-- A fraction of a second with the fewest of 0, 3, 6 or 9 digits that show it exactly. -/
def fractionChars (nanos : Nat) : List Char :=
  if nanos = 0 then []
  else if nanos % 1000000 = 0 then '.' :: padded 3 (nanos / 1000000)
  else if nanos % 1000 = 0 then '.' :: padded 6 (nanos / 1000)
  else '.' :: padded 9 nanos

/-- The form of entities, such as `2024-01-31T09:30:00.500Z`. -/
def render (t : Timestamp) : String :=
  String.ofList (t.dateChars ++ 'T' :: t.timeChars ++ fractionChars t.shownNanos ++ ['Z'])

/-- The form of messages, such as `2024-01-31 09:30:00.500 UTC`. -/
def renderInMessage (t : Timestamp) : String :=
  String.ofList (t.dateChars ++ ' ' :: t.timeChars ++ fractionChars t.shownNanos) ++ " UTC"

/-- The form of statement arguments, with six digits of the fraction. -/
def renderArgument (t : Timestamp) : String :=
  String.ofList
    (t.dateChars ++ 'T' :: t.timeChars ++ '.' :: padded 6 (t.shownNanos / 1000) ++ ['Z'])

end TaskQueue.Timestamp
