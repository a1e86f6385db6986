import TimeWindow.Json.Value
import TimeWindow.Text.Numeral

/-!
Values as messages show them: strings quoted, and words of their own for what is absent, true,
false or not finite.
-/

namespace TimeWindow.Json

def Literal.quoted : Literal → String
  | .text s => Text.quote s
  | .broken points => Text.Quoted.quotePoints points

mutual

def Value.shown : Value → String
  | .null => "None"
  | .bool b => if b then "True" else "False"
  | .int n => Text.integerText n
  | .real x => x.text "inf" "nan"
  | .string s => s.quoted
  | .array items => "[" ++ ", ".intercalate (shownItems items) ++ "]"
  | .object fields => "\x7b" ++ ", ".intercalate (shownFields fields) ++ "\x7d"

def shownItems : List Value → List String
  | [] => []
  | v :: rest => v.shown :: shownItems rest

def shownFields : List (Literal × Value) → List String
  | [] => []
  | (name, v) :: rest => (name.quoted ++ ": " ++ v.shown) :: shownFields rest

end

/-- A value as a string of its own: a string is itself, anything else is as in a message. -/
def Value.plain : Value → Literal
  | .string s => s
  | v => v.shown

mutual

def Value.writable : Value → Bool
  | .int n => Text.isWritable n
  | .array items => writableItems items
  | .object fields => writableFields fields
  | _ => true

def writableItems : List Value → Bool
  | [] => true
  | v :: rest => v.writable && writableItems rest

def writableFields : List (Literal × Value) → Bool
  | [] => true
  | (_, v) :: rest => v.writable && writableFields rest

end

end TimeWindow.Json
