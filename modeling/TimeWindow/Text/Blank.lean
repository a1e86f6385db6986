import TimeWindow.Text.Ranges

/-!
Blank characters, and the two cuts made along them: trimming a text at both ends and breaking it
into words.
-/

namespace TimeWindow.Text

def blanks : Ranges :=
  [(0x0009, 0x000D), (0x001C, 0x0020), (0x0085, 0x0085), (0x00A0, 0x00A0), (0x1680, 0x1680),
   (0x2000, 0x200A), (0x2028, 0x2029), (0x202F, 0x202F), (0x205F, 0x205F), (0x3000, 0x3000)]

def isBlank (c : Char) : Bool :=
  blanks.covers c

variable (drops : Char → Bool)

def trimBy (cs : List Char) : List Char :=
  ((cs.dropWhile drops).reverse.dropWhile drops).reverse

def trim (s : String) : String :=
  String.ofList (trimBy isBlank s.toList)

/-- The words of a text; `word` is what has been read of the current one, backwards. -/
def wordsFrom (word : List Char) : List Char → List (List Char)
  | [] => if word.isEmpty then [] else [word.reverse]
  | c :: rest =>
    if isBlank c then
      if word.isEmpty then wordsFrom [] rest else word.reverse :: wordsFrom [] rest
    else wordsFrom (c :: word) rest

def words (s : String) : List String :=
  (wordsFrom [] s.toList).map String.ofList

end TimeWindow.Text
