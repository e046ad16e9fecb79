import TaskQueue.Decimal.Binary64

/-!
# Shortest decimals

A number is written with the fewest decimal digits that read back as the same number. Of the
decimals with that many digits the nearest one is taken. Numbers of moderate size are written
positionally, with a point; the others with an exponent.
-/

namespace TaskQueue.Decimal

namespace Binary64

def quadruple (x : Binary64) : Nat :=
  4 * x.significand

/-- Whether `decimal · 10 ^ place` lies between the halfway points to the numbers next to `x`, so
that it reads back as `x`. The halfway points themselves do when the significand is even. -/
def readsBack (x : Binary64) (decimal : Nat) (place : Int) : Bool :=
  let step := x.exponent - 2
  let num := decimal * Nat.pow 10 place.toNat * Nat.pow 2 (-step).toNat
  let unit := Nat.pow 10 (-place).toNat * Nat.pow 2 step.toNat
  let belowGap := if x.significand = Nat.pow 2 52 && minExponent < x.exponent then 1 else 2
  let low := (x.quadruple - belowGap) * unit
  let high := (x.quadruple + 2) * unit
  if x.significand % 2 == 0 then low ≤ num && num ≤ high else low < num && num < high

/-- The exponent of the leading decimal digit of a positive ratio. -/
def leadingPlace (num den : Nat) : Int :=
  if den ≤ num then (Nat.toDigits 10 (num / den)).length - 1
  else -((Nat.toDigits 10 ((den - 1) / num)).length : Int)

/-- The decimals on the grid `10 ^ place` next to a positive ratio, the nearer one first. -/
def neighbours (num den : Nat) (place : Int) : List Nat :=
  let num := num * Nat.pow 10 (-place).toNat
  let den := den * Nat.pow 10 place.toNat
  let q := num / den
  let twice := 2 * (num % den)
  if twice < den || (twice == den && q % 2 == 0) then [q, q + 1] else [q + 1, q]

/-- The first decimal that reads back, looking at `count` more grids from `place` downwards. -/
def shortestFrom (x : Binary64) (place : Int) : Nat → Option (Nat × Int)
  | 0 => none
  | count + 1 =>
    match (neighbours x.ratio.1 x.ratio.2 place).find? (x.readsBack · place) with
    | some decimal => some (decimal, place)
    | none => shortestFrom x (place - 1) count

/-- The shortest decimal that reads back as a number, as an integer and a power of ten. The first
grid is the one above the leading digit, for the power of ten just above the number; some decimal of
seventeen digits always reads back. -/
def shortest (x : Binary64) : Nat × Int :=
  if x.significand = 0 then (0, 0)
  else (shortestFrom x (leadingPlace x.ratio.1 x.ratio.2 + 1) 18).getD (0, 0)

/-- The digits of `decimal · 10 ^ place`, with a point and a digit at least on both sides of it. -/
def positional (decimal : Nat) (place : Int) : List Char :=
  let digits := Nat.toDigits 10 decimal
  if 0 ≤ place then
    digits ++ List.replicate place.toNat '0' ++ ['.', '0']
  else
    let fraction := (-place).toNat
    let padded := List.replicate (fraction + 1 - digits.length) '0' ++ digits
    padded.take (padded.length - fraction) ++ '.' :: padded.drop (padded.length - fraction)

/-- The digits of `decimal · 10 ^ place` with a point after the first one, if there are more, and
the exponent of the first digit. -/
def scientific (decimal : Nat) (place : Int) : List Char :=
  let digits := Nat.toDigits 10 decimal
  let point := if digits.length = 1 then [] else ['.']
  digits.take 1 ++ point ++ digits.drop 1 ++ 'e' :: (toString (place + digits.length - 1)).toList

/-- The text of a number. It is positional when the leading digit stands at most sixteen places
before the point and at most five places after it. -/
def render (x : Binary64) : String :=
  let (decimal, place) := x.shortest
  let places := place + (Nat.toDigits 10 decimal).length
  let digits :=
    if -5 < places ∧ places ≤ 16 then positional decimal place else scientific decimal place
  String.ofList ((if x.negative then ['-'] else []) ++ digits)

end Binary64

end TaskQueue.Decimal
