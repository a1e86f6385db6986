import TimeWindow.Calendar.Stamp
import TimeWindow.Json.Display
import TimeWindow.Json.Value

/-!
What is reported along the way. A diagnostic goes to the sink of whoever asked or, without one, into
the log as a warning. Other records go straight into the log.
-/

namespace TimeWindow

open Json (Value)

inductive Diagnostic
  | undecodable (key : Value)
  | countTooLong (key : String)
  | fallbackUsed (key : Value) (fallbackKey : String)
  | unknownReference (reference : Value)
  | offsetOutOfRange (key : String) (limit : Calendar.Wall)

namespace Diagnostic

def head (key : String) : String :=
  Text.quote (String.ofList (key.toList.take 80))

def code : Diagnostic → String
  | .undecodable _ => "relative_time.decode_failed"
  | .countTooLong _ => "relative_time.decode_failed"
  | .fallbackUsed _ _ => "relative_time.fallback_used"
  | .unknownReference _ => "relative_time.unknown_reference_time"
  | .offsetOutOfRange _ _ => "relative_time.offset_out_of_range"

def message : Diagnostic → String
  | .undecodable key => "fail to parse key " ++ key.shown
  | .countTooLong key => "count out of range in key " ++ head key
  | .fallbackUsed key fallbackKey =>
    "fail to parse key " ++ key.shown ++ ", use fallback time " ++ fallbackKey
  | .unknownReference reference => "undefined reference time " ++ reference.shown ++ ", use now"
  | .offsetOutOfRange key limit =>
    "offset for key " ++ head key ++ " leaves the calendar range, clamped to " ++
      Calendar.Stamp.ofWall limit (some 0)

def context : Diagnostic → Json.Fields
  | .undecodable key => [("key", key)]
  | .countTooLong key => [("key", .string key)]
  | .fallbackUsed key fallbackKey => [("key", key), ("fallback_key", .string fallbackKey)]
  | .unknownReference reference => [("reference_time", .string reference.plain)]
  | .offsetOutOfRange key _ => [("key", .string key)]

end Diagnostic

inductive Level
  | debug | warning | error
deriving DecidableEq, Repr

def Level.text : Level → String
  | .debug => "DEBUG"
  | .warning => "WARNING"
  | .error => "ERROR"

structure Record where
  level : Level
  logger : String
  message : String
deriving DecidableEq, Repr

inductive Event
  | handed (d : Diagnostic)
  | warned (d : Diagnostic)
  | logged (record : Record)
  | environmentLoaded

def Diagnostic.record (d : Diagnostic) : Record :=
  ⟨.warning, "src.relative_time.diagnostics", d.code ++ ": " ++ d.message⟩

inductive Sink
  | asker | log
deriving DecidableEq, Repr

def Sink.report (sink : Sink) (ds : List Diagnostic) : List Event :=
  ds.map fun d => match sink with
    | .asker => .handed d
    | .log => .warned d

end TimeWindow
