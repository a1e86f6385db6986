import TimeWindow.Json.Value
import TimeWindow.Text.Numeral

/-!
Writing documents, on one line or indented. Strings keep all characters but quotation marks,
backslashes and controls, and what is no character is written by its number.
-/

namespace TimeWindow.Json

def escapeChar (c : Char) : List Char :=
  if c = '"' ∨ c = '\\' then ['\\', c]
  else if c = '\n' then ['\\', 'n']
  else if c = '\r' then ['\\', 'r']
  else if c = '\t' then ['\\', 't']
  else if c = '\x08' then ['\\', 'b']
  else if c = '\x0C' then ['\\', 'f']
  else if c.toNat < 0x20 then '\\' :: 'u' :: Text.Quoted.hex 4 c.toNat
  else [c]

def escapePoint (n : Nat) : List Char :=
  if n.isValidChar then escapeChar (Char.ofNat n) else '\\' :: 'u' :: Text.Quoted.hex 4 n

def stringText (s : Literal) : String :=
  let inner := match s with
    | .text s => s.toList.flatMap escapeChar
    | .broken points => points.flatMap escapePoint
  String.ofList ('"' :: inner ++ ['"'])

inductive Layout
  | line
  | indented (depth : Nat)

namespace Layout

def inner : Layout → Layout
  | .line => .line
  | .indented depth => .indented (depth + 1)

def lineBreak : Layout → String
  | .line => ""
  | .indented depth => "\n" ++ String.ofList (List.replicate (2 * depth) ' ')

def separator : Layout → String
  | .line => ", "
  | .indented depth => "," ++ lineBreak (.indented depth)

def enclose (layout : Layout) (first last : String) (items : List String) : String :=
  if items.isEmpty then first ++ last
  else
    first ++ layout.inner.lineBreak ++ layout.inner.separator.intercalate items ++
      layout.lineBreak ++ last

end Layout

mutual

def Value.write (layout : Layout) : Value → String
  | .null => "null"
  | .bool b => if b then "true" else "false"
  | .int n => Text.integerText n
  | .real x => x.text "Infinity" "NaN"
  | .string s => stringText s
  | .array items => layout.enclose "[" "]" (writeItems layout.inner items)
  | .object fields => layout.enclose "\x7b" "\x7d" (writeFields layout.inner fields)

def writeItems (layout : Layout) : List Value → List String
  | [] => []
  | v :: rest => v.write layout :: writeItems layout rest

def writeFields (layout : Layout) : List (Literal × Value) → List String
  | [] => []
  | (name, v) :: rest => (stringText name ++ ": " ++ v.write layout) :: writeFields layout rest

end

def Value.compact (v : Value) : String :=
  v.write .line

def Value.pretty (v : Value) : String :=
  v.write (.indented 0)

end TimeWindow.Json
