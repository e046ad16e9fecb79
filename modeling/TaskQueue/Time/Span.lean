/-!
# Spans of time

A span is a length of time in whole nanoseconds. Its seconds fit 64 bits, so there is a longest
span; the type carries the bound.
-/

namespace TaskQueue

abbrev nanosPerSecond : Nat := 1000000000

/-- A length of time of at most `2 ^ 64` seconds less a nanosecond. -/
structure Span where
  nanos : Nat
  lt_limit : nanos < Nat.pow 2 64 * nanosPerSecond
deriving DecidableEq

namespace Span

instance : Repr Span where
  reprPrec d _ := repr d.nanos

def zero : Span := ⟨0, by decide⟩

instance : Inhabited Span := ⟨zero⟩

/-- The span of the given nanoseconds, when there is one. -/
def ofNanos? (nanos : Nat) : Option Span :=
  if h : nanos < Nat.pow 2 64 * nanosPerSecond then some ⟨nanos, h⟩ else none

/-- The span of the given seconds and nanoseconds, when there is one. -/
def ofParts? (secs nanos : Nat) : Option Span :=
  ofNanos? (secs * nanosPerSecond + nanos)

/-- A span of a whole number of seconds that fits 32 bits. -/
def ofSecs (secs : UInt32) : Span :=
  ⟨secs.toNat * nanosPerSecond, by
    have := secs.toNat_lt
    simp only [nanosPerSecond, Nat.pow_eq]
    omega⟩

/-- A span of a whole number of milliseconds that fits 64 bits. -/
def ofMillis (millis : UInt64) : Span :=
  ⟨millis.toNat * 1000000, by
    have := millis.toNat_lt
    simp only [nanosPerSecond, Nat.pow_eq]
    omega⟩

def secs (d : Span) : Nat := d.nanos / nanosPerSecond

/-- The nanoseconds of a span beyond its whole seconds. -/
def subsecNanos (d : Span) : Nat := d.nanos % nanosPerSecond

def micros (d : Span) : Nat := d.nanos / 1000

def isZero (d : Span) : Bool := d.nanos == 0

def nonZero? (d : Span) : Option Span :=
  if d.isZero then none else some d

instance : LE Span := ⟨fun a b => a.nanos ≤ b.nanos⟩
instance : LT Span := ⟨fun a b => a.nanos < b.nanos⟩
instance (a b : Span) : Decidable (a ≤ b) := inferInstanceAs (Decidable (a.nanos ≤ b.nanos))
instance (a b : Span) : Decidable (a < b) := inferInstanceAs (Decidable (a.nanos < b.nanos))

def max (a b : Span) : Span :=
  if a ≤ b then b else a

theorem le_max_right (a b : Span) : b ≤ a.max b := by
  unfold max
  split
  · exact Nat.le_refl b.nanos
  · exact Nat.le_of_not_le ‹_›

/-- The span that remains of `a` after `b`, nothing when `b` is longer. -/
def sub (a b : Span) : Span :=
  ⟨a.nanos - b.nanos, Nat.lt_of_le_of_lt (Nat.sub_le _ _) a.lt_limit⟩

instance : Sub Span := ⟨sub⟩

def half (d : Span) : Span :=
  ⟨d.nanos / 2, Nat.lt_of_le_of_lt (Nat.div_le_self _ _) d.lt_limit⟩

/-- The digits of a fraction with the given number of places, without the zeros at its end. -/
def fractionDigits (places fraction : Nat) : List Char :=
  let digits := Nat.toDigits 10 fraction
  let padded := List.replicate (places - digits.length) '0' ++ digits
  (padded.reverse.dropWhile (· = '0')).reverse

/-- A number of units with a fraction of the given number of places. -/
def renderUnits (units fraction places : Nat) (symbol : String) : String :=
  match fractionDigits places fraction with
  | [] => s!"{units}{symbol}"
  | digits => s!"{units}.{String.ofList digits}{symbol}"

/-- The text of a span, in the greatest of the units s, ms, µs and ns that it reaches. -/
def render (d : Span) : String :=
  if nanosPerSecond ≤ d.nanos then renderUnits d.secs d.subsecNanos 9 "s"
  else if 1000000 ≤ d.nanos then renderUnits (d.nanos / 1000000) (d.nanos % 1000000) 6 "ms"
  else if 1000 ≤ d.nanos then renderUnits (d.nanos / 1000) (d.nanos % 1000) 3 "µs"
  else s!"{d.nanos}ns"

end Span

end TaskQueue
