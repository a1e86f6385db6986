import TimeWindow.Calendar.Wall
import TimeWindow.Number.Binary

/-!
Zones. A floating time belongs to no zone; a fixed zone keeps one distance to universal time; a
seasonal zone changes between standard and daylight time. A seasonal zone reads a wall
time as standard time first: if that falls into the daylight season the wall shows daylight time,
and if only the reading one saving earlier does, the wall shows this time twice. Whatever the rules
say, a distance to universal or to standard time is of use only if it is shorter than a day.
-/

namespace TimeWindow.Calendar

def withinDay (distance : Int) : Except CalendarError Int :=
  if distance.natAbs < 86400 then .ok distance else .error .dayApart

theorem withinDay_eq_ok_iff {distance d : Int} :
    withinDay distance = .ok d ↔ distance = d ∧ distance.natAbs < 86400 := by
  unfold withinDay
  split <;> rename_i h <;> simp [h]

/-- A moment of each year: the `week`-th `weekday` (Sunday is 0) of a month, counting the last one
for a fifth, and a number of seconds after that midnight. -/
structure YearlyRule where
  month : Nat
  week : Nat
  weekday : Nat
  second : Int
deriving DecidableEq, Repr

def YearlyRule.daysInto (rule : YearlyRule) (year : Int) : Int :=
  let first := Date.dayNumber ⟨year, rule.month, 1⟩
  let toWeekday := ((rule.weekday : Int) - (Date.weekday first + 1)) % 7
  let day := toWeekday + 7 * ((rule.week : Int) - 1)
  first - Date.dayNumber ⟨year, 1, 1⟩ + if day < daysInMonth year rule.month then day else day - 7

/-- The day from which the rules of a year count. Those of all years before 1970 count from the
first day of 1970, so the season hardly ever changes before that day. -/
def firstRuleDay (year : Int) : Int :=
  if 1970 < year then Date.dayNumber ⟨year, 1, 1⟩ else 0

def YearlyRule.secondIn (rule : YearlyRule) (year : Int) : Int :=
  (firstRuleDay year + rule.daysInto year) * 86400 + rule.second

/-- Rules as they are written: two distances to universal time, in seconds east, and when the year
changes between them. The start is given in standard time and the finish in daylight time. -/
structure YearlyRules where
  standard : Int
  daylight : Int
  start : YearlyRule
  finish : YearlyRule
deriving DecidableEq, Repr

namespace YearlyRules

def yearAt (second : Int) : Int :=
  (Date.ofDayNumber (second / 86400)).year

def startIn (r : YearlyRules) (year : Int) : Int :=
  r.start.secondIn year - r.standard

def finishIn (r : YearlyRules) (year : Int) : Int :=
  r.finish.secondIn year - r.daylight

def isDaylight (r : YearlyRules) (second : Int) : Bool :=
  let start := r.startIn (yearAt second)
  let finish := r.finishIn (yearAt second)
  if finish < start then second < finish || start ≤ second
  else start ≤ second && second < finish

def distanceAt (r : YearlyRules) (second : Int) : Int :=
  if r.isDaylight second then r.daylight else r.standard

end YearlyRules

/-- When it is daylight time: by rules of the year, or from each odd one of some changes to the
next. -/
inductive Daylight
  | yearly (rules : YearlyRules)
  | listed (changes : List Int)
deriving DecidableEq, Repr

def Daylight.isDaylight : Daylight → Int → Bool
  | .yearly rules, second => rules.isDaylight second
  | .listed changes, second => changes.countP (· ≤ second) % 2 = 1

structure Seasons where
  rules : Daylight
  standard : Int
  daylight : Int
  standard_lt_daylight : standard < daylight
deriving DecidableEq, Repr

inductive Zone
  | floating
  | fixed (offset : Int)
  | seasonal (seasons : Seasons)
deriving DecidableEq, Repr

def Zone.utc : Zone := .fixed 0

/-- The zone of a wall clock that follows rules, by its distances in the middle of winter and in the
middle of summer. It takes the larger one for daylight time, whatever the rules call it; if there is
but one it keeps to that. -/
def Daylight.zone (rules : Daylight) (winter summer : Int) : Zone :=
  if h : winter < summer then .seasonal ⟨rules, winter, summer, h⟩
  else if h : summer < winter then .seasonal ⟨rules, summer, winter, h⟩
  else .fixed winter

namespace YearlyRules

/-- The first second of 2026, in the winter of the northern half. -/
def midwinter : Int := 1767225600

/-- Half a year of 365 days and a quarter after `midwinter`. -/
def midsummer : Int := 1783004400

def zone (r : YearlyRules) : Zone :=
  Daylight.zone (.yearly r) (r.distanceAt midwinter) (r.distanceAt midsummer)

end YearlyRules

namespace Seasons

def saving (z : Seasons) : Int :=
  (z.daylight - z.standard) * secondMicros

/-- The second of universal time at which the rules are asked about a wall time, read as standard
time. The seconds on the wall are taken as a binary fraction, and so is what is left of them less
the distance; far from 1970 the last microseconds of a second thus belong to the next one. -/
def secondOf (z : Seasons) (w : Wall) : Int :=
  ((Number.Binary.round w.micros 1000000).add (.ofInt (-z.standard))).floor

def readsDaylight (z : Seasons) (w : Wall) : Bool :=
  z.rules.isDaylight (z.secondOf w)

/-- Whether the wall shows this time twice. The reading one saving earlier must be a wall time. -/
def isRepeated (z : Seasons) (w : Wall) : Except CalendarError Bool :=
  if z.readsDaylight w then .ok false
  else (w.move (-z.saving)).map z.readsDaylight

def showsDaylight (z : Seasons) (w : Wall) (second : Bool) : Except CalendarError Bool :=
  if z.readsDaylight w then .ok true
  else (z.isRepeated w).map (· && !second)

def offset (z : Seasons) (w : Wall) (second : Bool) : Except CalendarError Int := do
  withinDay (if ← z.showsDaylight w second then z.daylight else z.standard)

def ahead (z : Seasons) (w : Wall) (second : Bool) : Except CalendarError Int := do
  withinDay (if ← z.showsDaylight w second then z.daylight - z.standard else 0)

/-- The wall time of an instant of universal time and whether it is the second pass. The instant is
first taken for a wall time, whose distances must be of use too. -/
def ofUniversal (z : Seasons) (u : Wall) : Except CalendarError (Wall × Bool) := do
  let _ ← z.offset u false
  let _ ← z.ahead u false
  let standard ← u.move (z.standard * secondMicros)
  let ahead ← z.ahead standard true
  let wall ← standard.move (ahead * secondMicros)
  let twice ← z.isRepeated wall
  return (wall, twice && ahead = 0)

end Seasons

namespace Zone

def offset (zone : Zone) (w : Wall) (second : Bool) : Except CalendarError (Option Int) :=
  match zone with
  | .floating => .ok none
  | .fixed offset => (withinDay offset).map some
  | .seasonal z => (z.offset w second).map some

def ofUniversal (zone : Zone) (u : Wall) : Except CalendarError (Wall × Bool) :=
  match zone with
  | .floating => .ok (u, false)
  | .fixed offset => do
    let w ← u.move ((← withinDay offset) * secondMicros)
    return (w, false)
  | .seasonal z => z.ofUniversal u

end Zone

end TimeWindow.Calendar
