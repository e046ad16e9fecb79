/-!
# Classes of characters

A class of characters is a list of ranges of code points; a character belongs to it when one of
the ranges holds its code point.
-/

namespace TaskQueue.Text

/-- A set of characters, given by the first and the last code point of each of its ranges. -/
abbrev CharClass := List (Nat × Nat)

namespace CharClass

/-- A character is in the class when one of the ranges holds its code point. -/
def contains (ranges : CharClass) (c : Char) : Bool :=
  ranges.any fun (first, last) => first ≤ c.toNat && c.toNat ≤ last

end CharClass

end TaskQueue.Text
