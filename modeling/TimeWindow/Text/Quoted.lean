import TimeWindow.Text.Printable

/-!
Quoted texts, as messages show them: one line of printable characters between two quotation marks.
The mark is the apostrophe, unless the text holds apostrophes and no double quotation mark. A run of
code points is quoted in the same way, and may hold some that are no characters.
-/

namespace TimeWindow.Text.Quoted

def mark (cs : List Char) : Char :=
  if '\'' ∈ cs ∧ '"' ∉ cs then '"' else '\''

def hexDigit (d : Nat) : Char :=
  Char.ofNat (if d < 10 then 0x30 + d else 0x57 + d)

def hex : Nat → Nat → List Char
  | 0, _ => []
  | width + 1, n => hex width (n / 16) ++ [hexDigit (n % 16)]

def byNumber (n : Nat) : List Char :=
  if n ≤ 0xFF then '\\' :: 'x' :: hex 2 n
  else if n ≤ 0xFFFF then '\\' :: 'u' :: hex 4 n
  else '\\' :: 'U' :: hex 8 n

def escape (mark c : Char) : List Char :=
  if c = mark ∨ c = '\\' then ['\\', c]
  else if c = '\n' then ['\\', 'n']
  else if c = '\r' then ['\\', 'r']
  else if c = '\t' then ['\\', 't']
  else if isPrintable c then [c]
  else byNumber c.toNat

def quote (s : String) : String :=
  let cs := s.toList
  String.ofList (mark cs :: cs.flatMap (escape (mark cs)) ++ [mark cs])

def escapePoint (mark : Char) (n : Nat) : List Char :=
  if n.isValidChar then escape mark (Char.ofNat n) else byNumber n

def quotePoints (points : List Nat) : String :=
  let m := mark (points.map Char.ofNat)
  String.ofList (m :: points.flatMap (escapePoint m) ++ [m])

end TimeWindow.Text.Quoted

namespace TimeWindow.Text

export Quoted (quote)

end TimeWindow.Text
