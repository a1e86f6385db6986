import TimeWindow.Json.Display
import TimeWindow.Text.Numeral
import TimeWindow.Vocabulary

/-!
Windows of time relative to now, such as the last seven days or this month: a count of units and a
reference. A window is passed around as a key, `Key.write`, and `Key.read` takes exactly what has
the shape of one.
-/

namespace TimeWindow

structure Window where
  unit : TimeUnit
  count : Int
  reference : Reference
deriving DecidableEq, Repr

namespace Key

def write (unit : String) (count : Int) (reference : String) : String :=
  "unit=(" ++ unit ++ ")&count=(" ++ Text.integerText count ++
    ")&referenceTime=(" ++ reference ++ ")"

def spell (unit : Json.Literal) (count : Int) (reference : Json.Literal) : Json.Literal :=
  "unit=(" ++ unit ++ ")&count=(" ++ Text.integerText count ++ ")&referenceTime=(" ++
    reference ++ ")"

theorem spell_text (unit : String) (count : Int) (reference : String) :
    spell unit count reference = write unit count reference := by
  simp [spell, write, Json.Literal.text_append_text]

inductive Fault
  | malformed
  | countTooLong
deriving DecidableEq, Repr

def takeField (opening : String) (cs : List Char) : Option (List Char × List Char) :=
  (opening.toList.isPrefixOf? cs).bind fun cs =>
    match cs.dropWhile (· ≠ ')') with
    | [] => none
    | _ :: rest => some (cs.takeWhile (· ≠ ')'), rest)

def fields (cs : List Char) : Option (List Char × List Char × List Char) := do
  let (unit, cs) ← takeField "unit=(" cs
  let (count, cs) ← takeField "&count=(" cs
  let (reference, cs) ← takeField "&referenceTime=(" cs
  if cs.isEmpty then some (unit, count, reference) else none

def signedDigits (cs : List Char) : Option (Bool × List Char) :=
  let (negative, digits) := match cs with
    | '-' :: rest => (true, rest)
    | _ => (false, cs)
  if !digits.isEmpty && digits.all Char.isDigit then some (negative, digits) else none

def read (s : String) : Except Fault Window :=
  match fields s.toList with
  | none => .error .malformed
  | some (unit, count, reference) =>
    match TimeUnit.ofText? (String.ofList unit), signedDigits count,
      Reference.ofText? (String.ofList reference) with
    | some unit, some (negative, digits), some reference =>
      if Text.maxDigits < digits.length then .error .countTooLong
      else
        let n : Int := Text.valueOfDigits digits
        .ok ⟨unit, if negative then -n else n, reference⟩
    | _, _, _ => .error .malformed

end Key

def Window.key (w : Window) : String :=
  Key.write w.unit.text w.count w.reference.text

end TimeWindow
