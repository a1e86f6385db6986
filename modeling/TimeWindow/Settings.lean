import TimeWindow.Options
import TimeWindow.Text.Lower

/-!
Settings from the environment. A variable that is unset or blank, or whose text does not convert,
leaves the default; blanks around a text never count. A default stands in only for a text that is at
fault itself, so a setting may fail where converting a text goes wrong in another way.
-/

namespace TimeWindow

abbrev Environment := List (String × String)

namespace Settings

inductive Fault
  | keyword (e : KeywordError)
  | numeral (e : Text.NumeralError)
  | key (text : String) (d : Diagnostic)
  | descriptor (e : DescriptorError)

namespace Fault

def message : Fault → String
  | .keyword e => e.message
  | .numeral e => e.message
  | .key text _ => text
  | .descriptor e => e.message

def isCaught : Fault → Bool
  | .descriptor (.count .infinite) => false
  | .descriptor (.count (.unsuitable _)) => false
  | _ => true

def diagnostics : Fault → List Diagnostic
  | .key _ d => [d]
  | _ => []

end Fault

def raw (env : Environment) (name : String) : String :=
  Text.trim ((env.lookup name).getD "")

def setting {α : Type} (env : Environment) (name : String) (default : α)
    (convert : String → Except Fault α) : Except Fault (α × List Diagnostic) :=
  let text := raw env name
  if text.isEmpty then .ok (default, [])
  else
    match convert text with
    | .ok a => .ok (a, [])
    | .error e => if e.isCaught then .ok (default, e.diagnostics) else .error e

def isOn (text : String) : Bool :=
  ["1", "true", "yes", "on"].contains (Text.lower text)

def flagOf (text : String) : Except Fault Bool :=
  .ok (isOn text)

def weekStartOf (text : String) : Except Fault WeekStart :=
  (WeekStart.ofValue (.ofText (Text.lower text))).mapError .keyword

def integerOf (text : String) : Except Fault Int :=
  (Text.readInteger text).mapError .numeral

/-- The key of today's window names the preset itself and is not read. Any other key is taken apart
and put together again. -/
def fallbackOf (text : String) : Except Fault Descriptor :=
  if text = Descriptor.today.key then .ok .today
  else
    match Key.decode (.ofText text) with
    | .ok w =>
      (Descriptor.ofValues (.ofText w.unit.text) (.int w.count) (.ofText w.reference.text)).mapError
        .descriptor
    | .error (.reported d) => .error (.key text d)
    | .error (.failed e) => .error (.descriptor (.count e))

variable (env : Environment)

def untilNow : Except Fault Bool :=
  (setting env "RELATIVE_TIME_FORCE_UNTIL_NOW" true flagOf).map Prod.fst

def weekStart : Except Fault WeekStart :=
  (setting env "RELATIVE_TIME_WEEK_START" .sunday weekStartOf).map Prod.fst

def fallback : Except Fault (Descriptor × List Diagnostic) :=
  setting env "RELATIVE_TIME_FALLBACK_KEY" .today fallbackOf

def completionEnabled : Except Fault Bool :=
  (setting env "ENABLE_LLM_COMPLETION" false flagOf).map Prod.fst

def completionTimeout : Except Fault Int :=
  (setting env "LLM_COMPLETION_TIMEOUT_SECONDS" 5 integerOf).map Prod.fst

def completionLimit : Except Fault Int :=
  (setting env "LLM_COMPLETION_MAX_ATTEMPTS" 1 integerOf).map Prod.fst

def completionAttempts : Except Fault Int :=
  (completionLimit env).map fun limit => max 1 (min limit 2)

def options : Except Fault (Options × List Diagnostic) := do
  let untilNow ← untilNow env
  let (fallback, diagnostics) ← fallback env
  let weekStart ← weekStart env
  return ({ untilNow, fallback, weekStart }, diagnostics)

end Settings

end TimeWindow
