/-!
# Binary floating point

Finite numbers of 64-bit binary floating point, as a sign, a significand and a power of two, with
rounding to nearest done in exact arithmetic on ratios. A number is read from decimal digits by
scaling its significand with powers of ten, rounding after each step.
-/

namespace TaskQueue.Decimal

/-- A finite number `± significand · 2 ^ exponent`. The significand has 53 bits, fewer only at the
least exponent. -/
structure Binary64 where
  negative : Bool
  significand : Nat
  exponent : Int
deriving Repr, DecidableEq, Inhabited

namespace Binary64

def minExponent : Int := -1074

def maxExponent : Int := 971

def zero (negative : Bool) : Binary64 :=
  ⟨negative, 0, minExponent⟩

def ratio (x : Binary64) : Nat × Nat :=
  if 0 ≤ x.exponent then (x.significand * Nat.pow 2 x.exponent.toNat, 1)
  else (x.significand, Nat.pow 2 (-x.exponent).toNat)

/-- The integer nearest to a ratio; of two equally near ones the even one. -/
def roundToEven (num den : Nat) : Nat :=
  let q := num / den
  let twice := 2 * (num % den)
  if twice > den || (twice == den && q % 2 == 1) then q + 1 else q

/-- A ratio divided by a power of two, rounded to an integer. -/
def significandAt (num den : Nat) (exponent : Int) : Nat :=
  if 0 ≤ exponent then roundToEven num (den * Nat.pow 2 exponent.toNat)
  else roundToEven (num * Nat.pow 2 (-exponent).toNat) den

/-- The exponent at which the whole part of a positive ratio has 53 bits, or the least exponent. -/
def exponentOf (num den : Nat) : Int :=
  let low : Int := (Nat.log2 num : Int) - Nat.log2 den - 53
  let whole :=
    if 0 ≤ low then num / (den * Nat.pow 2 low.toNat) else num * Nat.pow 2 (-low).toNat / den
  max minExponent (if Nat.pow 2 53 ≤ whole then low + 1 else low)

/-- The number nearest to a ratio, or nothing when it lies beyond the greatest number. -/
def ofRatio (negative : Bool) (num den : Nat) : Option Binary64 :=
  if num = 0 then
    some (zero negative)
  else
    let e := exponentOf num den
    let m := significandAt num den e
    let rounded : Binary64 :=
      if m = Nat.pow 2 53 then ⟨negative, Nat.pow 2 52, e + 1⟩ else ⟨negative, m, e⟩
    if maxExponent < rounded.exponent then none else some rounded

def ofNat (n : Nat) : Option Binary64 :=
  ofRatio false n 1

/-- The product, rounded. The sign is that of the first factor. -/
def scaleUp (x y : Binary64) : Option Binary64 :=
  ofRatio x.negative (x.ratio.1 * y.ratio.1) (x.ratio.2 * y.ratio.2)

/-- The quotient, rounded. The sign is that of the dividend. -/
def scaleDown (x y : Binary64) : Option Binary64 :=
  ofRatio x.negative (x.ratio.1 * y.ratio.2) (x.ratio.2 * y.ratio.1)

/-- The power of ten of greatest exponent that is a number. -/
def maxPowerOfTen : Nat := 308

/-- Divides by a power of ten, in steps of at most `maxPowerOfTen` digits. -/
def dropDigits (x : Binary64) (digits : Nat) : Option Binary64 :=
  if digits ≤ maxPowerOfTen then
    (ofNat (Nat.pow 10 digits)).bind x.scaleDown
  else if x.significand = 0 then
    some x
  else
    ((ofNat (Nat.pow 10 maxPowerOfTen)).bind x.scaleDown).bind
      (dropDigits · (digits - maxPowerOfTen))
termination_by digits
decreasing_by simp [maxPowerOfTen] at *; omega

/-- The number written as `significand · 10 ^ exponent`, or nothing when it is too large. -/
def ofDecimal (negative : Bool) (significand : Nat) (exponent : Int) : Option Binary64 := do
  let x ← ofNat significand
  let scaled ←
    if 0 ≤ exponent then
      if x.significand = 0 then some x
      else if maxPowerOfTen < exponent.toNat then none
      else (ofNat (Nat.pow 10 exponent.toNat)).bind x.scaleUp
    else x.dropDigits (-exponent).toNat
  some { scaled with negative }

end Binary64

end TaskQueue.Decimal
