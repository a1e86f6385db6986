import TimeWindow.Calendar.Date

/-!
Wall-clock times of the years 1 to 9999, to the microsecond. A wall time is one number, so moving it
by a span is addition, followed by the question whether the clock can still show the result.
-/

namespace TimeWindow.Calendar

inductive CalendarError
  | beyondRange
  | yearOutOfRange (year : Int)
  /-- Two times of one instant are a day or more apart. -/
  | dayApart
deriving DecidableEq, Repr

def CalendarError.message : CalendarError → String
  | .beyondRange => "date value out of range"
  | .yearOutOfRange year => s!"year {year} is out of range"
  | .dayApart => "offset must be a timedelta strictly between -timedelta(hours=24) and " ++
      "timedelta(hours=24)."

def secondMicros : Int := 1000000

def dayMicros : Int := 86400000000

def firstMicros : Int := -62135596800000000

def lastMicros : Int := 253402300799999999

/-- A time on the wall, in microseconds since the wall showed the start of 1970. -/
structure Wall where
  micros : Int
  first_le : firstMicros ≤ micros
  le_last : micros ≤ lastMicros
deriving DecidableEq

namespace Wall

def first : Wall := ⟨firstMicros, by decide, by decide⟩

def last : Wall := ⟨lastMicros, by decide, by decide⟩

def ofMicros? (n : Int) : Option Wall :=
  if h : firstMicros ≤ n ∧ n ≤ lastMicros then some ⟨n, h.1, h.2⟩ else none

def move (w : Wall) (span : Int) : Except CalendarError Wall :=
  match ofMicros? (w.micros + span) with
  | some moved => .ok moved
  | none => .error .beyondRange

def day (w : Wall) : Int := w.micros / dayMicros

def timeOfDay (w : Wall) : Int := w.micros % dayMicros

def date (w : Wall) : Date := Date.ofDayNumber w.day

/-- Years are numbered in 32 bits. -/
def isYearNumber (year : Int) : Bool :=
  -2147483648 ≤ year && year ≤ 2147483647

def atDate (d : Date) (timeOfDay : Int) : Except CalendarError Wall :=
  if isYearNumber d.year then
    match ofMicros? (d.dayNumber * dayMicros + timeOfDay) with
    | some w => .ok w
    | none => .error (.yearOutOfRange d.year)
  else .error .beyondRange

theorem move_eq_ok_iff {w v : Wall} {span : Int} :
    w.move span = .ok v ↔ v.micros = w.micros + span := by
  unfold move ofMicros?
  split
  · rename_i moved h
    split at h
    · cases h
      cases v
      simp [eq_comm]
    · cases h
  · rename_i h
    split at h
    · cases h
    · rename_i hn
      constructor
      · intro h
        cases h
      · intro hv
        exact absurd ⟨hv ▸ v.first_le, hv ▸ v.le_last⟩ hn

end Wall

end TimeWindow.Calendar
