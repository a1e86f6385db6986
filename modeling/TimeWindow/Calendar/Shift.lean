import TimeWindow.Calendar.Moment
import TimeWindow.Vocabulary

/-!
Going back from a moment by a number of units. The number becomes a step, in which minutes carry
into hours, hours into days and months into years. A step moves the date first, which keeps to the
end of a shorter month, and then the wall time by a span. Minutes and hours are time that passes, so
in a zone their steps are taken in universal time; all others are taken on the wall. A negative
number goes forward.
-/

namespace TimeWindow.Calendar

/-- A step of the calendar: years and months move the date, the other parts make up a span. -/
structure Step where
  years : Int := 0
  months : Int := 0
  days : Int := 0
  hours : Int := 0
  minutes : Int := 0
deriving DecidableEq, Repr

namespace Step

def ofCount (count : Int) : TimeUnit → Step
  | .min => { minutes := count }
  | .hour => { hours := count }
  | .day => { days := count }
  | .week => { days := 7 * count }
  | .month => { months := count }
  | .year => { years := count }

/-- The least magnitude that is infinite as a binary fraction. A number of that size has no sign
that could be taken, so it does not carry. -/
def infiniteFrom : Nat := Number.pow2 1024 - Number.pow2 970

/-- The whole groups of `base` in a number and what is left, both with the sign of the number. -/
def carry (base : Nat) (n : Int) : Except CalendarError (Int × Int) :=
  if n.natAbs < base then .ok (0, n)
  else if n.natAbs < infiniteFrom then .ok (n.tdiv base, n.tmod base)
  else .error .beyondRange

def carried (s : Step) : Except CalendarError Step := do
  let (hours, minutes) ← carry 60 s.minutes
  let (days, hours) ← carry 24 (s.hours + hours)
  let (years, months) ← carry 12 s.months
  return ⟨s.years + years, months, s.days + days, hours, minutes⟩

def opposite (s : Step) : Step :=
  ⟨-s.years, -s.months, -s.days, -s.hours, -s.minutes⟩

def micros (s : Step) : Int :=
  s.days * dayMicros + (s.hours * 3600 + s.minutes * 60) * secondMicros

def maxDays : Int := 999999999

def span (s : Step) : Except CalendarError Int :=
  let days := s.micros / dayMicros
  if -maxDays ≤ days ∧ days ≤ maxDays then .ok s.micros else .error .beyondRange

end Step

def Date.inMonth (d : Date) (year : Int) (month : Nat) : Date :=
  ⟨year, month, min d.day (daysInMonth year month)⟩

/-- The date so many years and months later; the months are less than a year. -/
def Date.later (d : Date) (years months : Int) : Date :=
  let year := d.year + years
  let month := d.month + months
  if 12 < month then d.inMonth (year + 1) (month - 12).toNat
  else if month < 1 then d.inMonth (year - 1) (month + 12).toNat
  else d.inMonth year month.toNat

def Wall.plus (w : Wall) (s : Step) : Except CalendarError Wall := do
  let dated ← Wall.atDate (w.date.later s.years s.months) w.timeOfDay
  dated.move (← s.span)

namespace Moment

def onWall (t : Moment) (s : Step) : Except CalendarError Moment :=
  (t.wall.plus s).map fun wall => { wall, second := false, zone := t.zone }

def inUniversal (t : Moment) (s : Step) : Except CalendarError Moment := do
  let u ← t.universal
  ofUniversal t.zone (← u.plus s)

def back (t : Moment) (count : Int) (unit : TimeUnit) : Except CalendarError Moment := do
  let step ← (Step.ofCount count unit).carried
  if unit.isElapsed ∧ t.zone ≠ .floating then t.inUniversal step.opposite
  else t.onWall step.opposite

end Moment

end TimeWindow.Calendar
