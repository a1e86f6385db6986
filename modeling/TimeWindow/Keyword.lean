import TimeWindow.Count
import TimeWindow.Vocabulary

/-!
Keywords of the vocabulary from document values. Only a string can be a keyword; anything else is
reported as it stands.
-/

namespace TimeWindow

open Json (Value)

inductive KeywordError
  | unit (v : Value)
  | reference (v : Value)
  | weekStart (v : Value)

namespace KeywordError

def refused : KeywordError → Value
  | .unit v | .reference v | .weekStart v => v

def kind : KeywordError → String
  | .unit _ => "RelativeTimeUnit"
  | .reference _ => "ReferenceTime"
  | .weekStart _ => "WeekStart"

def message (e : KeywordError) : String :=
  match displayed e.refused with
  | .ok shown => shown ++ " is not a valid " ++ e.kind
  | .error e => e.message

end KeywordError

def TimeUnit.ofValue (v : Value) : Except KeywordError TimeUnit :=
  match v.string?.bind ofText? with
  | some unit => .ok unit
  | none => .error (.unit v)

def Reference.ofValue (v : Value) : Except KeywordError Reference :=
  match v.string?.bind ofText? with
  | some reference => .ok reference
  | none => .error (.reference v)

def WeekStart.ofValue (v : Value) : Except KeywordError WeekStart :=
  match v.string?.bind ofText? with
  | some start => .ok start
  | none => .error (.weekStart v)

end TimeWindow
