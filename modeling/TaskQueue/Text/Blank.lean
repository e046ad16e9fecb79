import TaskQueue.Text.CharClass

/-!
# White space

The characters that Unicode counts as white space, and the trimming of a text. Trimming is stated
on lists of characters: it drops the blank characters at both ends and nothing else.
-/

namespace TaskQueue.Text

def whiteSpace : CharClass :=
  [(0x9, 0xd), (0x20, 0x20), (0x85, 0x85), (0xa0, 0xa0), (0x1680, 0x1680), (0x2000, 0x200a),
    (0x2028, 0x2029), (0x202f, 0x202f), (0x205f, 0x205f), (0x3000, 0x3000)]

def isBlank (c : Char) : Bool :=
  whiteSpace.contains c

def trimRight (cs : List Char) : List Char :=
  (cs.reverse.dropWhile isBlank).reverse

def trim (cs : List Char) : List Char :=
  trimRight (cs.dropWhile isBlank)

/-- A text is blank when it holds nothing but white space. -/
def isBlankText (s : String) : Bool :=
  s.toList.all isBlank

/-- Puts a word before the words that follow, unless it is empty. -/
def consWord (word : List Char) (words : List (List Char)) : List (List Char) :=
  if word.isEmpty then words else word :: words

/-- The words of a text that continues a word, which is given backwards. -/
def wordsAfter (word : List Char) : List Char → List (List Char)
  | [] => consWord word.reverse []
  | c :: cs =>
    if isBlank c then consWord word.reverse (wordsAfter [] cs) else wordsAfter (c :: word) cs

/-- A text on one line: its words, with one space between them. -/
def oneLine (s : String) : String :=
  " ".intercalate ((wordsAfter [] s.toList).map String.ofList)

end TaskQueue.Text
