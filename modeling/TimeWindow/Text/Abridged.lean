/-!
Abridged texts: of a text that is too long only the two ends are shown. Lengths are in bytes of
UTF-8, and no character is divided.
-/

namespace TimeWindow.Text.Abridged

def fitting (room : Nat) : List Char → List Char
  | [] => []
  | c :: rest => if c.utf8Size ≤ room then c :: fitting (room - c.utf8Size) rest else []

/-- A text of at most so many bytes, or dots between the ends of a longer one. Of a limit that two
does not divide, the beginning has the larger half. -/
def abridge (limit : Nat) (s : String) : String :=
  if s.utf8ByteSize ≤ limit then s
  else
    let half := (limit + 1) / 2
    String.ofList (fitting half s.toList) ++ "..." ++
      String.ofList (fitting (half - 1) s.toList.reverse).reverse

end TimeWindow.Text.Abridged

namespace TimeWindow.Text

export Abridged (abridge)

end TimeWindow.Text
