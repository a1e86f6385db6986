import TimeWindow.Calendar.Moment

/-!
Clocks, by the readings that they are going to give. What a reading means is the clock's face: a
wall time of a zone, or universal time that is shown in a zone.
-/

namespace TimeWindow

open Calendar (CalendarError Moment Wall Zone)

structure Reading where
  wall : Wall
  second : Bool
deriving DecidableEq

/-- The readings that a clock is going to give; the last one repeats. -/
structure Clock where
  next : Reading
  later : List Reading

namespace Clock

def advance (c : Clock) : Clock :=
  match c.later with
  | [] => c
  | r :: rest => ⟨r, rest⟩

def after (c : Clock) : Nat → Clock
  | 0 => c
  | n + 1 => c.advance.after n

end Clock

inductive ClockFace
  | wall (zone : Zone)
  | universal (zone : Zone)
deriving DecidableEq

def ClockFace.moment (face : ClockFace) (r : Reading) : Except CalendarError Moment :=
  match face with
  | .wall zone => .ok ⟨r.wall, r.second, zone⟩
  | .universal zone => Moment.ofUniversal zone r.wall

end TimeWindow
