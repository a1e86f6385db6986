import TimeWindow.Text.Blank
import TimeWindow.Text.Digit
import TimeWindow.Text.Quoted

/-!
Integers as texts, written in plain digits and read more liberally: blanks around an optional sign
and decimal digits of any script, with single low lines between digits. A numeral of more than
`maxDigits` digits is refused unread.
-/

namespace TimeWindow.Text

inductive NumeralError
  | malformed (quoted : String)
  | tooLong (digits : Nat)
deriving DecidableEq, Repr

def integerText (n : Int) : String :=
  let digits := Nat.toDigits 10 n.natAbs
  String.ofList (if n < 0 then '-' :: digits else digits)

/-- The longest numeral that is read, leading zeros counted and the sign not. -/
def maxDigits : Nat := 4300

def isWritable (n : Int) : Bool :=
  (Nat.toDigits 10 n.natAbs).length ≤ maxDigits

def shownLength : Nat := 200

def NumeralError.message : NumeralError → String
  | .malformed quoted =>
    "invalid literal for int() with base 10: " ++ String.ofList (quoted.toList.take shownLength)
  | .tooLong digits =>
    "Exceeds the limit (" ++ integerText maxDigits ++
      " digits) for integer string conversion: value has " ++ integerText digits ++
      " digits; use sys.set_int_max_str_digits() to increase the limit"

/-- Blanks that may stand around a numeral: all but the separator controls. -/
def isNumeralMargin (c : Char) : Bool :=
  isBlank c && !(0x1C ≤ c.toNat && c.toNat ≤ 0x1F)

def digitsOfRun : List Char → Option (List Char)
  | [] => none
  | [c] => if c = '_' then none else some [c]
  | c :: d :: rest =>
    if c = '_' then none
    else if d = '_' then (digitsOfRun rest).map (c :: ·)
    else (digitsOfRun (d :: rest)).map (c :: ·)

def takeSign : List Char → Bool × List Char
  | '-' :: rest => (true, rest)
  | '+' :: rest => (false, rest)
  | cs => (false, cs)

def readInteger (s : String) : Except NumeralError Int :=
  let (negative, cs) := takeSign (s.toList.dropWhile isNumeralMargin)
  let inRun := fun c => isDecimal c || c == '_'
  match digitsOfRun (cs.takeWhile inRun) with
  | none => .error (.malformed (quote s))
  | some digits =>
    if maxDigits < digits.length then .error (.tooLong digits.length)
    else if (cs.dropWhile inRun).all isNumeralMargin then
      let n : Int := valueOfDigits digits
      .ok (if negative then -n else n)
    else .error (.malformed (quote s))

end TimeWindow.Text
