import TimeWindow.Normalization

/-!
Sessions: tasks given one after another at a common clock, which moves on by one reading with each
look that a task takes. `perform` is a task that is given one reading, `performing` the same task at
the running clock.
-/

namespace TimeWindow

open Calendar (Moment)
open Json (Value)

inductive Task
  | parse (key : Value)
  | label (target : Target)
  | resolve (target : Target)
  | reference (reference : Value) (now : Option Moment)
  | timeValue (stored : Value)
  | normalize (text : String) (client : Option Client) (debug : Bool)

inductive Answer
  | descriptor (d : Descriptor)
  | label (text : String)
  | range (r : Range)
  | moment (t : Moment)
  | timeValue (value : TimeValue) (r : Range)
  | normalized (n : Normalization.Normalized)

structure Session where
  resolver : Resolver
  environment : Environment

namespace Session

variable (s : Session)

def rangeOfStored (stored : Value) (reading : Reading) : Outcome Answer :=
  match TimeValue.ofValue stored with
  | .error e => { result := .error e.failure }
  | .ok value => (s.resolver.rangeOf value reading).map (.timeValue value)

def perform (reading : Reading) : Task → Outcome Answer
  | .parse key => (s.resolver.parse key).map .descriptor
  | .label target => (s.resolver.label target).map .label
  | .resolve target => (s.resolver.resolve target reading).map .range
  | .reference reference now => (s.resolver.reference reference now reading).map .moment
  | .timeValue stored => s.rangeOfStored stored reading
  | .normalize text client debug =>
    (Normalization.run ⟨s.resolver, s.environment, client, debug⟩ text reading).map .normalized

def rangingStored (stored : Value) : Course Answer := do
  let value ← .ofExcept ((TimeValue.ofValue stored).mapError TimeValue.Refusal.failure)
  return .timeValue value (← s.resolver.ranging value)

def performing : Task → Course Answer
  | .parse key => .settled ((s.resolver.parse key).map .descriptor)
  | .label target => .settled ((s.resolver.label target).map .label)
  | .resolve target => return .range (← s.resolver.resolving target)
  | .reference reference now => return .moment (← s.resolver.referring reference now)
  | .timeValue stored => s.rangingStored stored
  | .normalize text client debug =>
    return .normalized (← Normalization.running ⟨s.resolver, s.environment, client, debug⟩ text)

def run (clock : Clock) : List (Session × Task) → List (Outcome Answer)
  | [] => []
  | (s, task) :: rest =>
    let outcome := (s.performing task).outcome clock
    outcome :: run (clock.after outcome.reads) rest

end Session

end TimeWindow
