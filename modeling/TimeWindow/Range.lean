import TimeWindow.Calendar.Stamp
import TimeWindow.Json.Value

/-!
Ranges of absolute time in milliseconds since the start of 1970, and their two ends as moments.
-/

namespace TimeWindow

open Calendar (CalendarError Moment Zone)

structure Range where
  start : Int
  finish : Int
deriving DecidableEq, Repr

namespace Range

def between (a b : Int) : Range :=
  if a ≤ b then ⟨a, b⟩ else ⟨b, a⟩

def cutAt (r : Range) (limit : Int) : Range :=
  if limit < r.finish then { r with finish := limit } else r

def isEmpty (r : Range) : Bool := r.start = r.finish

def startMoment (r : Range) (zone : Zone) : Except CalendarError Moment :=
  Moment.ofEpochMillis zone r.start

def finishMoment (r : Range) (zone : Zone) : Except CalendarError Moment :=
  Moment.ofEpochMillis zone r.finish

def toValue (r : Range) : Except CalendarError Json.Value := do
  let start ← (← r.startMoment .utc).stamp
  let finish ← (← r.finishMoment .utc).stamp
  return .object [("startTime", .int r.start), ("endTime", .int r.finish),
    ("start_datetime", .string start), ("end_datetime", .string finish)]

end Range

end TimeWindow
