import TimeWindow.Json.Display
import TimeWindow.Text.Numeral

/-!
Counts from document values. A whole number counts as itself, a floating-point one without its
fraction, a truth value as 0 or 1, and a string as the numeral that it spells. A count is there to
be written into a key, so a number whose numeral would be too long is refused.
-/

namespace TimeWindow

open Json (Value)

inductive CountError
  | numeral (e : Text.NumeralError)
  | notANumber
  | infinite
  | unsuitable (kind : String)
  | unwritable
deriving DecidableEq, Repr

def CountError.message : CountError → String
  | .numeral e => e.message
  | .notANumber => "cannot convert float NaN to integer"
  | .infinite => "cannot convert float infinity to integer"
  | .unsuitable kind =>
    s!"int() argument must be a string, a bytes-like object or a real number, not '{kind}'"
  | .unwritable =>
    "Exceeds the limit (" ++ Text.integerText Text.maxDigits ++
      " digits) for integer string conversion; use sys.set_int_max_str_digits() to increase the limit"

def countOf (n : Int) : Except CountError Int :=
  if Text.isWritable n then .ok n else .error .unwritable

def countOfValue : Value → Except CountError Int
  | .int n => countOf n
  | .bool b => .ok (if b then 1 else 0)
  | .real .notANumber => .error .notANumber
  | .real (.infinite _) => .error .infinite
  | .real (.finite negative m) => countOf (if negative then -m.truncate else m.truncate)
  | .string (.text s) => (Text.readInteger s).mapError .numeral
  | .string (.broken points) => .error (.numeral (.malformed (Text.Quoted.quotePoints points)))
  | .null => .error (.unsuitable "NoneType")
  | .array _ => .error (.unsuitable "list")
  | .object _ => .error (.unsuitable "dict")

/-- The string of a value, if no whole number in it is too long to be written out. -/
def written (v : Value) : Except CountError Json.Literal :=
  if v.writable then .ok v.plain else .error .unwritable

def displayed (v : Value) : Except CountError String :=
  if v.writable then .ok v.shown else .error .unwritable

end TimeWindow
