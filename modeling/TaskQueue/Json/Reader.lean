import TaskQueue.Json.Basic

/-!
# Reading JSON

A reader of JSON texts. It keeps numbers written with a point or an exponent apart from whole
numbers, and reads whole numbers beyond 64 bits as floating point. A text that is not JSON has no
value.
-/

namespace TaskQueue.Json

/-- Drops the blanks that JSON allows between its parts. -/
def skipBlanks (cs : List Char) : List Char :=
  cs.dropWhile fun c => c = ' ' || c = '\t' || c = '\n' || c = '\r'

def hexDigit? (c : Char) : Option Nat :=
  if '0' ≤ c && c ≤ '9' then some (c.toNat - '0'.toNat)
  else if 'a' ≤ c && c ≤ 'f' then some (c.toNat - 'a'.toNat + 10)
  else if 'A' ≤ c && c ≤ 'F' then some (c.toNat - 'A'.toNat + 10)
  else none

def hexUnit? (a b c d : Char) : Option Nat := do
  return ((← hexDigit? a) * 16 + (← hexDigit? b)) * 256 + ((← hexDigit? c) * 16 + (← hexDigit? d))

/-- The character that a letter stands for after a backslash. -/
def escaped? (c : Char) : Option Char :=
  match c with
  | '"' => some '"'
  | '\\' => some '\\'
  | '/' => some '/'
  | 'b' => some '\x08'
  | 'f' => some '\x0c'
  | 'n' => some '\n'
  | 'r' => some '\r'
  | 't' => some '\t'
  | _ => none

/-- Reads the rest of a string up to its closing quote, as code points and surrogates. -/
def readUnits : List Char → Option (List Nat × List Char)
  | [] => none
  | '"' :: rest => some ([], rest)
  | '\\' :: 'u' :: a :: b :: c :: d :: rest => do
    let unit ← hexUnit? a b c d
    let (units, rest) ← readUnits rest
    return (unit :: units, rest)
  | '\\' :: c :: rest => do
    let c ← escaped? c
    let (units, rest) ← readUnits rest
    return (c.toNat :: units, rest)
  | c :: rest => do
    if c.toNat < 0x20 then none
    let (units, rest) ← readUnits rest
    return (c.toNat :: units, rest)

/-- Joins the pairs of surrogates. A surrogate on its own is not a character. -/
def joinSurrogates : List Nat → Option (List Char)
  | [] => some []
  | unit :: rest =>
    if 0xd800 ≤ unit && unit < 0xdc00 then
      match rest with
      | low :: rest =>
        if 0xdc00 ≤ low && low < 0xe000 then do
          let cs ← joinSurrogates rest
          return Char.ofNat (0x10000 + (unit - 0xd800) * 0x400 + (low - 0xdc00)) :: cs
        else none
      | [] => none
    else if 0xdc00 ≤ unit && unit < 0xe000 then none
    else do
      let cs ← joinSurrogates rest
      return Char.ofNat unit :: cs

/-- Reads the rest of a string after its opening quote. -/
def readText (cs : List Char) : Option (String × List Char) := do
  let (units, rest) ← readUnits cs
  let cs ← joinSurrogates units
  return (String.ofList cs, rest)

/-- The digits at the start of a text, and what follows them. -/
def spanDigits (cs : List Char) : List Nat × List Char :=
  ((cs.takeWhile Char.isDigit).map fun c => c.toNat - '0'.toNat, cs.dropWhile Char.isDigit)

def maxSignificand : Nat := Nat.pow 2 64 - 1

/-- Appends digits to a significand as long as it fits 64 bits. Also the number of digits that
were appended, and the number of those left out. -/
def appendDigits (significand : Nat) : List Nat → Nat × Nat × Nat
  | [] => (significand, 0, 0)
  | d :: ds =>
    if maxSignificand < significand * 10 + d then (significand, 0, ds.length + 1)
    else
      let (total, kept, dropped) := appendDigits (significand * 10 + d) ds
      (total, kept + 1, dropped)

def readExponent (cs : List Char) : Option (Int × List Char) :=
  let (negative, cs) :=
    match cs with
    | '-' :: rest => (true, rest)
    | '+' :: rest => (false, rest)
    | _ => (false, cs)
  match spanDigits cs with
  | ([], _) => none
  | (digits, rest) =>
    let magnitude : Int := Nat.ofDigitChars 10 (digits.map Nat.digitChar) 0
    some (if negative then -magnitude else magnitude, rest)

/-- The value of a number that has only whole digits. A negative zero, and a number beyond 64
bits, is a floating-point number. -/
def wholeNumber (negative : Bool) (digits : List Nat) : Option Json :=
  let (significand, _, dropped) := appendDigits 0 digits
  if dropped = 0 && !negative then
    some (.int significand)
  else if dropped = 0 && 0 < significand && significand ≤ Nat.pow 2 63 then
    some (.int (-significand))
  else
    (Decimal.Binary64.ofDecimal negative significand dropped).map .float

/-- The value of a number with a fraction or an exponent. -/
def pointNumber (negative : Bool) (whole fraction : List Nat) (exponent : Int) : Option Json :=
  let (significand, _, dropped) := appendDigits 0 whole
  let (significand, kept, _) := appendDigits significand fraction
  (Decimal.Binary64.ofDecimal negative significand (dropped - kept + exponent)).map .float

def readMagnitude (negative : Bool) (cs : List Char) : Option (Json × List Char) := do
  let (whole, rest) := spanDigits cs
  if whole.isEmpty || (whole.length > 1 && whole.head? = some 0) then none
  let (fraction, rest) ←
    match rest with
    | '.' :: rest =>
      match spanDigits rest with
      | ([], _) => none
      | (digits, rest) => some (some digits, rest)
    | _ => some (none, rest)
  let (exponent, rest) ←
    match rest with
    | 'e' :: rest | 'E' :: rest => (readExponent rest).map fun (e, rest) => (some e, rest)
    | _ => some (none, rest)
  let value ←
    match fraction, exponent with
    | none, none => wholeNumber negative whole
    | _, _ => pointNumber negative whole (fraction.getD []) (exponent.getD 0)
  return (value, rest)

def readWord : List Char → List Char → Option (List Char)
  | [], cs => some cs
  | w :: ws, c :: cs => if w = c then readWord ws cs else none
  | _ :: _, [] => none

mutual

/-- Reads a value that begins the text after blanks; each level of nesting and each element uses
up one unit of `fuel`. -/
def readValue (fuel : Nat) (cs : List Char) : Option (Json × List Char) :=
  match fuel with
  | 0 => none
  | fuel + 1 =>
    match skipBlanks cs with
    | '"' :: rest => (readText rest).map fun (s, rest) => (.text s, rest)
    | '[' :: rest =>
      match skipBlanks rest with
      | ']' :: rest => some (.array [], rest)
      | _ => (readItems fuel rest).map fun (items, rest) => (.array items, rest)
    | '\x7b' :: rest =>
      match skipBlanks rest with
      | '\x7d' :: rest => some (.object [], rest)
      | _ => (readFields fuel rest).map fun (fields, rest) => (ofFields fields, rest)
    | 'n' :: rest => (readWord ['u', 'l', 'l'] rest).map (.null, ·)
    | 't' :: rest => (readWord ['r', 'u', 'e'] rest).map (.bool true, ·)
    | 'f' :: rest => (readWord ['a', 'l', 's', 'e'] rest).map (.bool false, ·)
    | '-' :: rest => readMagnitude true rest
    | cs => readMagnitude false cs

/-- Reads the elements of an array up to its closing bracket. -/
def readItems (fuel : Nat) (cs : List Char) : Option (List Json × List Char) :=
  match fuel with
  | 0 => none
  | fuel + 1 => do
    let (item, rest) ← readValue fuel cs
    match skipBlanks rest with
    | ',' :: rest => (readItems fuel rest).map fun (items, rest) => (item :: items, rest)
    | ']' :: rest => some ([item], rest)
    | _ => none

/-- Reads the fields of an object up to its closing brace. -/
def readFields (fuel : Nat) (cs : List Char) : Option (List (String × Json) × List Char) :=
  match fuel with
  | 0 => none
  | fuel + 1 =>
    match skipBlanks cs with
    | '"' :: rest => do
      let (name, rest) ← readText rest
      match skipBlanks rest with
      | ':' :: rest => do
        let (value, rest) ← readValue fuel rest
        match skipBlanks rest with
        | ',' :: rest =>
          (readFields fuel rest).map fun (fields, rest) => ((name, value) :: fields, rest)
        | '\x7d' :: rest => some ([(name, value)], rest)
        | _ => none
      | _ => none
    | _ => none

end

/-- The value of a JSON text, or nothing when the text is not JSON. -/
def parse? (s : String) : Option Json := do
  let cs := s.toList
  let (value, rest) ← readValue (2 * cs.length + 2) cs
  if (skipBlanks rest).isEmpty then some value else none

end TaskQueue.Json
