import TimeWindow.Calendar.Zone
import TimeWindow.Number.Binary

/-!
Moments: a wall time, the zone it is read in, and which of two passes it is where the wall shows a
time twice. A moment's place in time is counted in milliseconds since the start of 1970 in universal
time. In a zone that is exact; a floating moment goes through binary fractions of a second.
-/

namespace TimeWindow.Calendar

structure Moment where
  wall : Wall
  second : Bool
  zone : Zone
deriving DecidableEq

namespace Moment

def earliest : Moment := ⟨.first, false, .utc⟩

def latest : Moment := ⟨.last, false, .utc⟩

/-- A floating time is looked up together with the wall time a day before it or, in the second pass,
a day after it; that one must be in range. -/
def floatingNeighbour (w : Wall) (second : Bool) : Except CalendarError Unit :=
  match Wall.ofMicros? (if second then w.micros + dayMicros else w.micros - dayMicros) with
  | some _ => .ok ()
  | none => .error (.yearOutOfRange (if second then 10000 else 0))

/-- The milliseconds of a floating time: its seconds as a binary fraction, times a thousand, without
what follows the point. -/
def floatingMillis (w : Wall) : Int :=
  let whole := Number.Binary.ofInt (w.micros / secondMicros)
  let part := Number.Binary.round (w.micros % secondMicros) secondMicros.toNat
  ((whole.add part).mul (.ofInt 1000)).truncate

/-- Microseconds of universal time, for an offset in seconds. -/
def instant (w : Wall) (offset : Int) : Int :=
  w.micros - offset * secondMicros

def epochMillis (t : Moment) : Except CalendarError Int := do
  match ← t.zone.offset t.wall t.second with
  | some offset => return instant t.wall offset / 1000
  | none =>
    floatingNeighbour t.wall t.second
    return floatingMillis t.wall

def universal (t : Moment) : Except CalendarError Wall := do
  match ← t.zone.offset t.wall t.second with
  | some offset => t.wall.move (-offset * secondMicros)
  | none => return t.wall

def ofUniversal (zone : Zone) (u : Wall) : Except CalendarError Moment :=
  (zone.ofUniversal u).map fun (w, second) => ⟨w, second, zone⟩

def ofEpochMillis (zone : Zone) (ms : Int) : Except CalendarError Moment :=
  match Wall.ofMicros? (ms * 1000) with
  | some u => ofUniversal zone u
  | none => .error .beyondRange

end Moment

end TimeWindow.Calendar
