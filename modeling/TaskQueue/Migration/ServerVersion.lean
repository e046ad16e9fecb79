/-!
# Versions of the server

A server tells its version as a number in a text. The number has to be read exactly as a number of
32 bits, and has to be that of a server that is new enough.
-/

namespace TaskQueue

inductive NumberError where
  | empty
  | invalidDigit
  | overflow
deriving Repr, DecidableEq

namespace NumberError

def message : NumberError → String
  | empty => "cannot parse integer from empty string"
  | invalidDigit => "invalid digit found in string"
  | overflow => "number too large to fit in target type"

end NumberError

namespace ServerVersion

def oldest : Nat := 120000

/-- Reads digits after a number that was read already. The first character that is not a digit or
takes the number beyond 32 bits decides. -/
def readDigits (n : Nat) : List Char → Except NumberError Nat
  | [] => .ok n
  | c :: cs =>
    if !c.isDigit then .error .invalidDigit
    else
      let n := n * 10 + (c.toNat - '0'.toNat)
      if Nat.pow 2 32 ≤ n then .error .overflow else readDigits n cs

/-- Reads a number of 32 bits, which may have a plus sign. -/
def readNumber (s : String) : Except NumberError Nat :=
  match s.toList with
  | [] => .error .empty
  | ['+'] => .error .invalidDigit
  | '+' :: cs => readDigits 0 cs
  | cs => readDigits 0 cs

end ServerVersion

end TaskQueue
