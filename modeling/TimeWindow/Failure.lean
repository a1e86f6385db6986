import TimeWindow.Phrase
import TimeWindow.Settings
import TimeWindow.TimeValue

/-!
What a task may fail with.
-/

namespace TimeWindow

open Calendar (CalendarError)

inductive Failure
  | calendar (e : CalendarError)
  | count (e : CountError)
  | phrase (e : Phrase.Fault)
  | setting (e : Settings.Fault)
  | timeValue (e : TimeValue.Fault)
  | noWindow (text : String)

def Failure.message : Failure → String
  | .calendar e => e.message
  | .count e => e.message
  | .phrase e => e.message
  | .setting e => e.message
  | .timeValue e => e.message
  | .noWindow text => "no relative time window found in " ++ Text.quote text

def TimeValue.Refusal.failure : Refusal → Failure
  | .fault e => .timeValue e
  | .failed e => .count e

end TimeWindow
