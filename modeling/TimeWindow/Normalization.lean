import TimeWindow.Json.Printer
import TimeWindow.Resolver

/-!
From free text to a resolved window. The phrase rules go first; where they find nothing a language
model is asked. Each stage can be printed, and the stage of the model with what it changed.
-/

namespace TimeWindow

open Json (Value)

namespace Normalization

inductive Source
  | rule | model
deriving DecidableEq, Repr

def Source.text : Source → String
  | .rule => "rule"
  | .model => "llm"

structure Stage where
  text : String
  phrase : Option String
  descriptor : Option Descriptor
  source : Option Source
deriving DecidableEq, Repr

namespace Stage

def optionalText : Option String → Value
  | none => .null
  | some s => .string s

def descriptorValue (d : Descriptor) : Value :=
  .object [("count", .int d.count), ("key", .string d.key),
    ("referenceTime", .string d.reference.text), ("unit", .string d.unit.text)]

def toValue (s : Stage) : Value :=
  .object [("descriptor", (s.descriptor.map descriptorValue).getD .null),
    ("original_phrase", optionalText s.phrase), ("raw_text", .string s.text),
    ("source", optionalText (s.source.map Source.text))]

def changes (before after : Stage) : List String :=
  (if before.descriptor = after.descriptor then [] else ["descriptor"]) ++
  (if before.phrase = after.phrase then [] else ["original_phrase"]) ++
  (if before.text = after.text then [] else ["raw_text"]) ++
  (if before.source = after.source then [] else ["source"])

end Stage

def report (stage : String) (document : Value) : String :=
  s!"[normalize_phrase] {stage}:\n" ++ document.pretty ++ "\n"

def reportChanges (stage : String) (names : List String) : String :=
  let shown := if names.isEmpty then ["<none>"] else names
  s!"[normalize_phrase] {stage} changed: " ++ (Value.array (shown.map .ofText)).shown ++ "\n"

def ruleStage (text : String) (found : Option Phrase.Found) : Stage where
  text
  phrase := found.map (·.phrase)
  descriptor := found.map (·.descriptor)
  source := found.map fun _ => .rule

def modelStage (before : Stage) (window : Option Window) : Stage :=
  { before with
    descriptor := window.map Window.descriptor
    source := window.map fun _ => .model }

structure Normalized where
  text : String
  phrase : Option String
  source : Option Source
  descriptor : Descriptor
  range : Range
  rangeValue : Value

def Normalized.toValue (n : Normalized) : Value :=
  .object [("raw_text", .string n.text), ("original_phrase", Stage.optionalText n.phrase),
    ("source", Stage.optionalText (n.source.map Source.text)), ("key", .string n.descriptor.key),
    ("label", .string n.descriptor.label), ("range", n.rangeValue),
    ("empty_range", .bool n.range.isEmpty)]

def sortedRange (v : Value) : Value :=
  .object [("endTime", v.fieldOrNull "endTime"), ("end_datetime", v.fieldOrNull "end_datetime"),
    ("startTime", v.fieldOrNull "startTime"), ("start_datetime", v.fieldOrNull "start_datetime")]

def Normalized.sorted (n : Normalized) : Value :=
  .object [("empty_range", .bool n.range.isEmpty), ("key", .string n.descriptor.key),
    ("label", .string n.descriptor.label), ("original_phrase", Stage.optionalText n.phrase),
    ("range", sortedRange n.rangeValue), ("raw_text", .string n.text),
    ("source", Stage.optionalText (n.source.map Source.text))]

structure Setup where
  resolver : Resolver
  environment : Environment
  client : Option Client
  /-- Whether stages are printed. -/
  debug : Bool

def resolveStage (setup : Setup) (stage : Stage) (reading : Reading) : Outcome Normalized :=
  match stage.descriptor with
  | none => { result := .error (.noWindow stage.text) }
  | some d =>
    let resolved := setup.resolver.resolve (.descriptor d) reading
    let result := do
      let range ← resolved.result
      let rangeValue ← range.toValue.mapError .calendar
      return ⟨stage.text, stage.phrase, stage.source, d, range, rangeValue⟩
    let printed := match result with
      | .ok n => if setup.debug then report "resolve" (Normalized.sorted n) else ""
      | .error _ => ""
    { result, events := resolved.events, reads := resolved.reads, printed }

def run (setup : Setup) (text : String) (reading : Reading) : Outcome Normalized :=
  match Phrase.parse text with
  | .error e => { result := .error (.phrase e) }
  | .ok found =>
    let first := ruleStage text found
    let printed := if setup.debug then report "parse_time_phrase" first.toValue else ""
    match found with
    | some _ =>
      let done := resolveStage setup first reading
      { done with printed := printed ++ done.printed }
    | none =>
      let completion := Completion.run setup.environment setup.client
      let calls := Completion.calls setup.environment setup.client text
      match completion.window with
      | .error e => { result := .error e, events := completion.events, printed, calls }
      | .ok window =>
        let stage := modelStage first window
        let more :=
          if setup.debug then
            report "complete_relative_time" stage.toValue ++
              reportChanges "complete_relative_time" (first.changes stage)
          else ""
        let done := resolveStage setup stage reading
        { done with
          events := completion.events ++ done.events
          printed := printed ++ more ++ done.printed
          calls }

def completing (setup : Setup) (text : String) (first : Stage) : Course Stage := do
  let completion := Completion.run setup.environment setup.client
  let calls := Completion.calls setup.environment setup.client text
  let window ← .settled { result := completion.window, events := completion.events, calls }
  let stage := modelStage first window
  if setup.debug then
    .say (report "complete_relative_time" stage.toValue)
    .say (reportChanges "complete_relative_time" (first.changes stage))
  return stage

def finishing (setup : Setup) (stage : Stage) : Course Normalized := do
  match stage.descriptor with
  | none => .ofExcept (.error (.noWindow stage.text))
  | some d =>
    let range ← setup.resolver.resolving (.descriptor d)
    let rangeValue ← .ofExcept (range.toValue.mapError .calendar)
    let n := ⟨stage.text, stage.phrase, stage.source, d, range, rangeValue⟩
    if setup.debug then .say (report "resolve" (Normalized.sorted n))
    return n

def running (setup : Setup) (text : String) : Course Normalized := do
  let found ← .ofExcept ((Phrase.parse text).mapError .phrase)
  let first := ruleStage text found
  if setup.debug then .say (report "parse_time_phrase" first.toValue)
  let stage ← match found with
    | some _ => pure first
    | none => completing setup text first
  finishing setup stage

end Normalization

end TimeWindow
