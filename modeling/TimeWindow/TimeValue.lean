import TimeWindow.Options

/-!
Time values as they are stored: a range of absolute time, or the key of a window. A stored value is
a document with a tag for its kind; an older tag for windows is still read.
-/

namespace TimeWindow

open Json (Value)

inductive TimeValue
  | absolute (start finish : Int)
  | relative (key : Json.Literal)
deriving DecidableEq, Repr

namespace TimeValue

def tags : List String := ["abs", "rel"]

inductive Fault
  | notAnObject
  | unknownType (tag : Json.Literal)
  | notAnInteger (field : String)
  | keyNotText
deriving DecidableEq, Repr

inductive Refusal
  | fault (e : Fault)
  | failed (e : CountError)

def Fault.message : Fault → String
  | .notAnObject => "time value must be an object"
  | .unknownType tag => "unknown time type " ++ tag.quoted
  | .notAnInteger field => field ++ " must be an integer epoch milliseconds value"
  | .keyNotText => "relativeTimeKey must be a string"

def integerField (v : Value) (name : String) : Except Fault Int :=
  match (v.fieldOrNull name).int? with
  | some n => .ok n
  | none => .error (.notAnInteger name)

def tagOf (v : Value) : Except CountError Json.Literal :=
  match v.field? "type" with
  | some tag => written tag
  | none => .ok ""

/-- The value of a document with a tag. The tag of older documents stands for a window too. -/
def ofTagged (v : Value) (tag : Json.Literal) : Except Fault TimeValue :=
  if tag = "abs" then do
    let start ← integerField v "start"
    let finish ← integerField v "end"
    return .absolute start finish
  else if tag = "rel" ∨ tag = "res" then
    match v.fieldOrNull "relativeTimeKey" with
    | .string key => .ok (.relative key)
    | _ => .error .keyNotText
  else .error (.unknownType tag)

def ofValue (v : Value) : Except Refusal TimeValue :=
  if v.isObject then do
    let tag ← (tagOf v).mapError .failed
    (ofTagged v tag).mapError .fault
  else .error (.fault .notAnObject)

def toValue : TimeValue → Value
  | .absolute start finish =>
    .object [("type", .string "abs"), ("start", .int start), ("end", .int finish)]
  | .relative key => .object [("type", .string "rel"), ("relativeTimeKey", .string key)]

end TimeValue

end TimeWindow
