import TaskQueue.Time.Timestamp
import TaskQueue.Text.Blank

/-!
# Reading timestamps

The texts that are read as timestamps: a date, a separator, a time of day and an offset, as in
RFC 3339, with white space allowed between the parts. The moment is brought to universal time.
-/

namespace TaskQueue.Timestamp

def skipBlanks (cs : List Char) : List Char :=
  cs.dropWhile Text.isBlank

/-- Reads the digits at the start of a text, at most `width` of them and at least one. -/
def readDigits (width : Nat) (cs : List Char) : Option (List Char × List Char) :=
  match (cs.take width).takeWhile Char.isDigit with
  | [] => none
  | digits => some (digits, cs.drop digits.length)

/-- Reads a number of at most `width` digits, after white space. -/
def readNumber (width : Nat) (cs : List Char) : Option (Nat × List Char) :=
  (readDigits width (skipBlanks cs)).map fun (digits, rest) => (Nat.ofDigitChars 10 digits 0, rest)

def readMark (mark : Char) (cs : List Char) : Option (List Char) :=
  match skipBlanks cs with
  | c :: rest => if c = mark then some rest else none
  | [] => none

/-- Reads a year: four digits, or a sign and any number of digits. -/
def readYear (cs : List Char) : Option (Int × List Char) :=
  match skipBlanks cs with
  | '-' :: rest => (readDigits rest.length rest).map fun (digits, rest) =>
      (-(Nat.ofDigitChars 10 digits 0 : Int), rest)
  | '+' :: rest => (readDigits rest.length rest).map fun (digits, rest) =>
      ((Nat.ofDigitChars 10 digits 0 : Int), rest)
  | cs => (readDigits 4 cs).map fun (digits, rest) => ((Nat.ofDigitChars 10 digits 0 : Int), rest)

def isYear (year : Int) : Bool :=
  -262143 ≤ year && year ≤ 262142

def readDate (cs : List Char) : Option (Date × List Char) := do
  let (year, cs) ← readYear cs
  let cs ← readMark '-' cs
  let (month, cs) ← readNumber 2 cs
  let cs ← readMark '-' cs
  let (day, cs) ← readNumber 2 cs
  if !isYear year then none
  let date ← Date.ofParts? year month day
  return (date, cs)

/-- Reads what separates the date from the time of day. -/
def readSeparator : List Char → Option (List Char)
  | 'T' :: rest | 't' :: rest | ' ' :: rest => some rest
  | _ => none

/-- The nanoseconds of at most nine digits of a fraction. -/
def nanosOfFraction (digits : List Char) : Nat :=
  Nat.ofDigitChars 10 digits 0 * Nat.pow 10 (9 - digits.length)

/-- Reads the fraction of a second, if there is one. Digits beyond the ninth are dropped. -/
def readFraction : List Char → Option (Nat × List Char)
  | '.' :: rest => do
    let (digits, rest) ← readDigits 9 rest
    return (nanosOfFraction digits, rest.dropWhile Char.isDigit)
  | cs => some (0, cs)

/-- Reads a time of day, as a second of the day and nanoseconds. The second `60` is a leap
second. -/
def readTime (cs : List Char) : Option (Nat × Nat × List Char) := do
  let (hour, cs) ← readNumber 2 cs
  let cs ← readMark ':' cs
  let (minute, cs) ← readNumber 2 cs
  let cs ← readMark ':' cs
  let (second, cs) ← readNumber 2 cs
  let (nanos, cs) ← readFraction cs
  if 24 ≤ hour || 60 ≤ minute || 60 < second then none
  let minutes := hour * 60 + minute
  if second = 60 then return (minutes * 60 + 59, nanos + nanosPerSecond, cs)
  return (minutes * 60 + second, nanos, cs)

def readTwoDigits : List Char → Option (Nat × List Char)
  | a :: b :: rest =>
    if a.isDigit && b.isDigit then some (Nat.ofDigitChars 10 [a, b] 0, rest) else none
  | _ => none

/-- Reads the hours and minutes of an offset after its sign, as seconds. -/
def readOffsetSpan (cs : List Char) : Option (Nat × List Char) := do
  let (hours, cs) ← readTwoDigits cs
  let (minutes, cs) ← readTwoDigits (cs.dropWhile fun c => c = ':' || Text.isBlank c)
  if 60 ≤ minutes || 24 ≤ hours then none
  return (hours * 3600 + minutes * 60, cs)

def readOffset (cs : List Char) : Option (Int × List Char) :=
  match skipBlanks cs with
  | u :: t :: c :: rest =>
    if u.toUpper = 'U' && t.toUpper = 'T' && c.toUpper = 'C' then some (0, rest)
    else signed (u :: t :: c :: rest)
  | cs => signed cs
where
  signed : List Char → Option (Int × List Char)
  | 'Z' :: rest | 'z' :: rest => some (0, rest)
  | '+' :: rest => (readOffsetSpan rest).map fun (seconds, rest) => ((seconds : Int), rest)
  | '-' :: rest | '−' :: rest =>
    (readOffsetSpan rest).map fun (seconds, rest) => (-(seconds : Int), rest)
  | _ => none

/-- The moment at a local date and time of day with an offset of less than a day. -/
def ofLocal? (date : Date) (second nanos : Nat) (offset : Int) : Option Timestamp :=
  let universal := (second : Int) - offset
  let (date, universal) :=
    if universal < 0 then (date.previous, universal + secondsPerDay)
    else if (secondsPerDay : Int) ≤ universal then (date.next, universal - secondsPerDay)
    else (date, universal)
  if isYear date.year then ofParts? date universal.toNat nanos else none

/-- The timestamp that a text stands for, if it stands for one. -/
def parse? (s : String) : Option Timestamp := do
  let (date, cs) ← readDate s.toList
  let cs ← readSeparator cs
  let (second, nanos, cs) ← readTime cs
  let (offset, cs) ← readOffset cs
  if !(skipBlanks cs).isEmpty then none
  ofLocal? date second nanos offset

end TaskQueue.Timestamp
