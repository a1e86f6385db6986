/-!
Small letters, as far as keywords need them. Keywords are written in unaccented Latin letters, and
besides the plain capitals only two characters have such a letter in their small form.
-/

namespace TimeWindow.Text

/-- The small form of a character, exact in its unaccented Latin letters: a capital I with a dot
leaves the dot behind as a mark of its own, and the Kelvin sign becomes a plain k. -/
def lowerChar (c : Char) : List Char :=
  if c = '\u0130' then ['i', '\u0307']
  else if c = '\u212A' then ['k']
  else [c.toLower]

def lower (s : String) : String :=
  String.ofList (s.toList.flatMap lowerChar)

end TimeWindow.Text
