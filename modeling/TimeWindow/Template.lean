import TimeWindow.Json.Display
import TimeWindow.Text.Abridged
import TimeWindow.Text.Digit

/-!
Templates: texts with named gaps between curly brackets. A doubled bracket is a bracket of the text.
After its name a gap may say how a value is shown; that is kept, but goes for nothing when the gap
is filled. A template is read character by character; how far the reader has come is a `Progress`.
-/

namespace TimeWindow.Template

inductive Piece
  | text (s : String)
  | gap (name format : String)
deriving DecidableEq, Repr

inductive Fault
  | loneOpening
  | loneClosing
  | openingInName
  | unclosedName
  | noConversion
  | longConversion
  | unclosedFormat
  | pathName (name : String)
  | numberName (name : String)
  | gapInFormat
  /-- A template with these gaps, one of which may not be named so. -/
  | forbidden (names : List String) (template : String)
  | missing (names all : List String) (given : String)
  | reserved (name : String)
  | unnamed
deriving DecidableEq, Repr

def forbiddenName : String := "stop"

def reservedName : String := "self"

structure Help where
  prompts : String
  values : String

def Help.hint (help : Help) : String := "\nFor troubleshooting, visit: " ++ help.prompts ++ " "

def missingText (help : Help) (names all : List String) (given : String) : String :=
  let list (names : List String) := ", ".intercalate (names.map Text.quote)
  let first := names.headD ""
  "Input to ChatPromptTemplate is missing variables \x7b" ++ list names ++ "\x7d.  Expected: [" ++
    list all ++ "] Received: [" ++ Text.quote given ++ "]\nNote: if you intended \x7b" ++ first ++
    "\x7d to be part of the string and not a variable, please escape it with double curly " ++
    "braces like: '\x7b\x7b" ++ first ++ "\x7d\x7d'." ++ help.hint

def description (names : List String) (template : String) : Json.Value :=
  .object [
    ("input_variables", .array (names.map .ofText)),
    ("template", .ofText template),
    ("template_format", .ofText "f-string"),
    ("partial_variables", .object [])]

def forbiddenText (help : Help) (names : List String) (template : String) : String :=
  "1 validation error for PromptTemplate\n  Value error, Cannot have an input variable named " ++
    Text.quote forbiddenName ++ ", as it is used internally, please rename." ++ help.hint ++
    " [type=value_error, input_value=" ++ Text.abridge 50 (description names template).shown ++
    ", input_type=dict]\n    For further information visit " ++ help.values

def Fault.message (help : Help) : Fault → String
  | .loneOpening => "Single '\x7b' encountered in format string"
  | .loneClosing => "Single '\x7d' encountered in format string"
  | .openingInName => "unexpected '\x7b' in field name"
  | .unclosedName => "expected '\x7d' before end of string"
  | .noConversion => "end of string while looking for conversion specifier"
  | .longConversion => "expected ':' after conversion specifier"
  | .unclosedFormat => "unmatched '\x7b' in format spec"
  | .pathName name =>
    "Invalid variable name " ++ Text.quote name ++ " in f-string template. " ++
      "Variable names cannot contain attribute access (.) or indexing ([])."
  | .numberName name =>
    "Invalid variable name " ++ Text.quote name ++ " in f-string template. " ++
      "Variable names cannot be all digits as they are interpreted as positional arguments."
  | .gapInFormat =>
    "Invalid format specifier in f-string template. Nested replacement fields are not allowed."
  | .forbidden names template => forbiddenText help names template
  | .missing names all given => Text.quote (missingText help names all given)
  | .reserved name =>
    "BaseChatPromptTemplate.format_prompt() got multiple values for argument " ++ Text.quote name
  | .unnamed => "tuple index out of range"

/-- Where the reader is. Texts, names and formats are kept backwards. -/
inductive Progress
  | text (cs : List Char)
  | opening (cs : List Char)
  | closing (cs : List Char)
  /-- In a name; `indexed` is whether a square bracket is open in it. -/
  | name (cs : List Char) (indexed : Bool)
  | conversion (name : List Char)
  | converted (name : List Char)
  /-- In the part on how a value is shown, so many curly brackets deep. -/
  | format (name shown : List Char) (depth : Nat)

def backwards (cs : List Char) : String := String.ofList cs.reverse

namespace Progress

def nameStep (cs : List Char) (indexed : Bool) (c : Char) :
    Except Fault (List Piece × Progress) :=
  if indexed then .ok ([], .name (c :: cs) (c ≠ ']'))
  else if c = '{' then .error .openingInName
  else if c = '}' then .ok ([.gap (backwards cs) ""], .text [])
  else if c = '!' then .ok ([], .conversion cs)
  else if c = ':' then .ok ([], .format cs [] 0)
  else .ok ([], .name (c :: cs) (c = '['))

def step (place : Progress) (c : Char) : Except Fault (List Piece × Progress) :=
  match place with
  | .text cs =>
    if c = '{' then .ok ([], .opening cs)
    else if c = '}' then .ok ([], .closing cs)
    else .ok ([], .text (c :: cs))
  | .opening cs =>
    if c = '{' then .ok ([], .text (c :: cs))
    else (nameStep [] false c).map fun (pieces, next) => (.text (backwards cs) :: pieces, next)
  | .closing cs => if c = '}' then .ok ([], .text (c :: cs)) else .error .loneClosing
  | .name cs indexed => nameStep cs indexed c
  | .conversion cs => .ok ([], .converted cs)
  | .converted cs =>
    if c = '}' then .ok ([.gap (backwards cs) ""], .text [])
    else if c = ':' then .ok ([], .format cs [] 0)
    else .error .longConversion
  | .format cs shown depth =>
    if c = '{' then .ok ([], .format cs (c :: shown) (depth + 1))
    else if c = '}' then
      match depth with
      | 0 => .ok ([.gap (backwards cs) (backwards shown)], .text [])
      | depth + 1 => .ok ([], .format cs (c :: shown) depth)
    else .ok ([], .format cs (c :: shown) depth)

def finish : Progress → Except Fault (List Piece)
  | .text cs => .ok [.text (backwards cs)]
  | .opening _ => .error .loneOpening
  | .closing _ => .error .loneClosing
  | .name _ _ => .error .unclosedName
  | .conversion _ => .error .noConversion
  | .converted _ => .error .unclosedFormat
  | .format _ _ _ => .error .unclosedFormat

def pieces (place : Progress) : List Char → Except Fault (List Piece)
  | [] => place.finish
  | c :: rest => do
    let (done, next) ← place.step c
    return done ++ (← next.pieces rest)

end Progress

def Piece.check : Piece → Except Fault Unit
  | .text _ => .ok ()
  | .gap name format =>
    if name.toList.any fun c => c = '.' ∨ c = '[' ∨ c = ']' then .error (.pathName name)
    else if !name.isEmpty && name.toList.all Text.isDigit then .error (.numberName name)
    else if '{' ∈ format.toList then .error .gapInFormat
    else .ok ()

def gapNames (pieces : List Piece) : List String :=
  let names := pieces.filterMap fun
    | .gap name _ => some name
    | .text _ => none
  names.eraseDups.mergeSort

def read (s : String) : Except Fault (List Piece) := do
  let pieces ← (Progress.text []).pieces s.toList
  pieces.forM Piece.check
  let names := gapNames pieces
  if forbiddenName ∈ names then .error (.forbidden names s) else return pieces

def Piece.fill (value : String) : Piece → String
  | .text s => s
  | .gap _ _ => value

def fill (name value : String) (pieces : List Piece) : Except Fault String :=
  let names := gapNames pieces
  let missing := names.filter (· ≠ name)
  if missing ≠ [] then .error (.missing missing names name)
  else if name = reservedName then .error (.reserved name)
  else if name.isEmpty && !names.isEmpty then .error .unnamed
  else .ok (String.join (pieces.map (Piece.fill value)))

end TimeWindow.Template
