import TaskQueue.Text.Casing

/-!
# Lower case

The lower-case form of a text. Every character but one has a form that does not depend on where
it stands; a capital sigma becomes the final small sigma at the end of a word.
-/

namespace TaskQueue.Text

/-- The lower-case form of a character, whatever stands around it. The capital I with a dot is the
only character whose form has two characters. -/
def lowerChar (c : Char) : List Char :=
  if c.toNat < 0x80 then
    [c.toLower]
  else if c = 'İ' then
    ['i', '\u0307']
  else
    match capitalRuns.find? (·.contains c) with
    | some run => [run.lower c]
    | none => [c]

/-- Whether the first character that casing does not look through is a cased letter. -/
def startsCased (cs : List Char) : Bool :=
  match cs.dropWhile caseIgnorable.contains with
  | [] => false
  | c :: _ => cased.contains c

/-- The lower-case form of a character between the text before it, read backwards, and the text
after it: a capital sigma that ends a word becomes a final sigma. -/
def lowerBetween (before : List Char) (c : Char) (after : List Char) : List Char :=
  if c = 'Σ' then
    if startsCased before && !startsCased after then ['ς'] else ['σ']
  else
    lowerChar c

/-- The lower-case form of a text that follows the given characters, which are read backwards. -/
def lowerAfter (before : List Char) : List Char → List Char
  | [] => []
  | c :: after => lowerBetween before c after ++ lowerAfter (c :: before) after

def lowerCase (cs : List Char) : List Char :=
  lowerAfter [] cs

end TaskQueue.Text
