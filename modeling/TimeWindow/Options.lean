import TimeWindow.Calendar.Period
import TimeWindow.Calendar.Shift
import TimeWindow.Descriptor
import TimeWindow.Diagnostic
import TimeWindow.Range

/-!
Resolving windows. The range of a window lies between its reference instant and the instant `count`
units before now. A key that cannot be read stands for the fallback, and an instant outside the
calendar for the end of the calendar on that side; both leave a diagnostic. A diagnostic shows what
it is about, so a value with too long a number in it cannot be reported, and that is a failure.
-/

namespace TimeWindow

open Calendar (CalendarError Moment)
open Json (Value)

structure Options where
  /-- Ranges end now at the latest. -/
  untilNow : Bool := true
  /-- What a key that cannot be read stands for. -/
  fallback : Descriptor := .today
  weekStart : WeekStart := .sunday
deriving DecidableEq, Repr

inductive Target
  | key (key : Value)
  | descriptor (d : Descriptor)

namespace Key

inductive Refusal
  | reported (d : Diagnostic)
  | failed (e : CountError)

def decode : Value → Except Refusal Window
  | .string (.text s) =>
    match read s with
    | .ok w => .ok w
    | .error .malformed => .error (.reported (.undecodable (.string s)))
    | .error .countTooLong => .error (.reported (.countTooLong s))
  | v =>
    match displayed v with
    | .ok _ => .error (.reported (.undecodable v))
    | .error e => .error (.failed e)

end Key

namespace Options

variable (o : Options)

/-- The descriptor of a key, which goes by the very text that was read, or the fallback. -/
def parse (key : Value) : Except CountError (Descriptor × List Diagnostic) :=
  match Key.decode key with
  | .ok w => .ok ({ w with key := key.plain.repaired }, [])
  | .error (.reported d) => .ok (o.fallback, [d, .fallbackUsed key o.fallback.key])
  | .error (.failed e) => .error e

def descriptor : Target → Except CountError (Descriptor × List Diagnostic)
  | .key key => o.parse key
  | .descriptor d => .ok (d, [])

def referenceMoment (reference : Reference) (now : Moment) : Except CalendarError Moment :=
  match reference with
  | .now => .ok now
  | .today => .ok now.startOfDay
  | .thisWeek => now.startOfWeek o.weekStart
  | .thisMonth => .ok now.startOfMonth
  | .thisYear => .ok now.startOfYear

def referenceMomentOf (reference : Value) (now : Moment) :
    Except CountError (Except CalendarError Moment × List Diagnostic) :=
  match Reference.ofValue reference with
  | .ok r => .ok (o.referenceMoment r now, [])
  | .error _ => do
    let _ ← displayed reference
    return (.ok now, [.unknownReference reference])

/-- The moment `count` units before now, or the end of the calendar that lies that way. -/
def offsetMoment (d : Descriptor) (now : Moment) : Moment × List Diagnostic :=
  match now.back d.count d.unit with
  | .ok t => (t, [])
  | .error _ =>
    let limit := if 0 < d.count then Moment.earliest else Moment.latest
    (limit, [.offsetOutOfRange d.key limit.wall])

def range (reference offset now : Int) : Range :=
  let whole := Range.between offset reference
  if o.untilNow then whole.cutAt now else whole

def resolveAt (d : Descriptor) (now : Moment) : Except CalendarError Range × List Diagnostic :=
  match (o.referenceMoment d.reference now).bind Moment.epochMillis with
  | .error e => (.error e, [])
  | .ok reference =>
    let (offset, diagnostics) := offsetMoment d now
    (do
      let offset ← offset.epochMillis
      let now ← now.epochMillis
      return o.range reference offset now,
    diagnostics)

end Options

end TimeWindow
