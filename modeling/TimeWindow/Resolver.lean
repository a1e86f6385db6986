import TimeWindow.Course

/-!
A resolver at work. It has options, a place for its diagnostics and a clock. A task that needs the
time is given the next reading of that clock, or looks at the clock itself in its course.
-/

namespace TimeWindow

open Calendar (Moment)
open Json (Value)

/-- The window that a key stands for, if it can be read. Why it cannot goes to the sink. -/
def Key.window? (sink : Sink) (key : Value) : Outcome (Option Window) :=
  match decode key with
  | .ok w => { result := .ok (some w) }
  | .error (.reported d) => { result := .ok none, events := sink.report [d] }
  | .error (.failed e) => { result := .error (.count e) }

structure Resolver where
  options : Options := {}
  sink : Sink := .log
  face : ClockFace := .universal .utc

namespace Resolver

variable (r : Resolver)

def described (target : Target) : Outcome Descriptor :=
  match r.options.descriptor target with
  | .ok (d, diagnostics) => { result := .ok d, events := r.sink.report diagnostics }
  | .error e => { result := .error (.count e) }

def parse (key : Value) : Outcome Descriptor :=
  r.described (.key key)

def label (target : Target) : Outcome String :=
  (r.described target).map Descriptor.label

/-- The range of a target. The key is read first and the clock after it. -/
def resolve (target : Target) (reading : Reading) : Outcome Range :=
  match r.options.descriptor target with
  | .ok (d, diagnostics) =>
    let (range, more) := match r.face.moment reading with
      | .ok now => r.options.resolveAt d now
      | .error e => (.error e, [])
    { result := range.mapError .calendar, events := r.sink.report (diagnostics ++ more), reads := 1 }
  | .error e => { result := .error (.count e) }

def reference (reference : Value) (now : Option Moment) (reading : Reading) : Outcome Moment :=
  let reads := if now.isSome then 0 else 1
  match (now.map .ok).getD (r.face.moment reading) with
  | .error e => { result := .error (.calendar e), reads }
  | .ok t =>
    match r.options.referenceMomentOf reference t with
    | .ok (found, diagnostics) =>
      { result := found.mapError .calendar, events := r.sink.report diagnostics, reads }
    | .error e => { result := .error (.count e), reads }

def rangeOf (value : TimeValue) (reading : Reading) : Outcome Range :=
  match value with
  | .absolute start finish => { result := .ok (Range.between start finish) }
  | .relative key => r.resolve (.key (.string key)) reading

def now : Course Moment := do
  let reading ← .look
  .ofExcept ((r.face.moment reading).mapError .calendar)

def instant (t : Moment) : Course Int :=
  .ofExcept (t.epochMillis.mapError .calendar)

def referring (reference : Value) (given : Option Moment) : Course Moment := do
  let t ← match given with
    | some t => pure t
    | none => r.now
  let (found, diagnostics) ← .ofExcept ((r.options.referenceMomentOf reference t).mapError .count)
  .tell (r.sink.report diagnostics)
  .ofExcept (found.mapError .calendar)

def resolvingAt (d : Descriptor) (now : Moment) : Course Range := do
  let reference ← instant (← r.referring (.ofText d.reference.text) (some now))
  let (moment, diagnostics) := Options.offsetMoment d now
  .tell (r.sink.report diagnostics)
  let offset ← instant moment
  let finish ← instant now
  return r.options.range reference offset finish

def resolving (target : Target) : Course Range := do
  let d ← .settled (r.described target)
  r.resolvingAt d (← r.now)

def ranging : TimeValue → Course Range
  | .absolute start finish => return Range.between start finish
  | .relative key => r.resolving (.key (.string key))

end Resolver

end TimeWindow
