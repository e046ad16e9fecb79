import TaskQueue.Text.Unprintable

/-!
# Quoted texts

A quoted text stands between double quotes, with the quote, the backslash and every character that
has no mark of its own escaped. Messages quote names and reasons this way.
-/

namespace TaskQueue.Text

/-- The digits of a number in the given base, most significant first and without leading zeros. -/
def digitsOf (base n : Nat) : List Char :=
  Nat.toDigits base n

def quoteChar (c : Char) : List Char :=
  if c = '"' then ['\\', '"']
  else if c = '\\' then ['\\', '\\']
  else if c = '\n' then ['\\', 'n']
  else if c = '\r' then ['\\', 'r']
  else if c = '\t' then ['\\', 't']
  else if c = '\x00' then ['\\', '0']
  else if unprintable.contains c then ['\\', 'u', '\x7b'] ++ digitsOf 16 c.toNat ++ ['\x7d']
  else [c]

def quote (s : String) : String :=
  String.ofList ('"' :: s.toList.flatMap quoteChar ++ ['"'])

end TaskQueue.Text
