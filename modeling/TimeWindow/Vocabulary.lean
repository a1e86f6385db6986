/-!
The words of a window: the unit it is counted in, the reference it is measured against, and the day
that a week starts with. Each word has one spelling, and `ofText?` knows no other.
-/

namespace TimeWindow

inductive TimeUnit
  | min | hour | day | week | month | year
deriving DecidableEq, Repr

namespace TimeUnit

def all : List TimeUnit := [.min, .hour, .day, .week, .month, .year]

def text : TimeUnit → String
  | .min => "Min"
  | .hour => "Hour"
  | .day => "Day"
  | .week => "Week"
  | .month => "Month"
  | .year => "Year"

def ofText? (s : String) : Option TimeUnit :=
  all.find? (·.text = s)

def isElapsed : TimeUnit → Bool
  | .min | .hour => true
  | _ => false

theorem ofText?_eq_some_iff {s : String} {unit : TimeUnit} :
    ofText? s = some unit ↔ s = unit.text := by
  constructor
  · intro h
    have found := List.find?_some h
    exact (of_decide_eq_true found).symm
  · rintro rfl
    cases unit <;> decide

end TimeUnit

inductive Reference
  | now | today | thisWeek | thisMonth | thisYear
deriving DecidableEq, Repr

namespace Reference

def all : List Reference := [.now, .today, .thisWeek, .thisMonth, .thisYear]

def text : Reference → String
  | .now => "now"
  | .today => "today"
  | .thisWeek => "thisWeek"
  | .thisMonth => "thisMonth"
  | .thisYear => "thisYear"

def ofText? (s : String) : Option Reference :=
  all.find? (·.text = s)

theorem ofText?_eq_some_iff {s : String} {reference : Reference} :
    ofText? s = some reference ↔ s = reference.text := by
  constructor
  · intro h
    have found := List.find?_some h
    exact (of_decide_eq_true found).symm
  · rintro rfl
    cases reference <;> decide

end Reference

inductive WeekStart
  | sunday | monday
deriving DecidableEq, Repr

namespace WeekStart

def all : List WeekStart := [.sunday, .monday]

def text : WeekStart → String
  | .sunday => "sunday"
  | .monday => "monday"

def ofText? (s : String) : Option WeekStart :=
  all.find? (·.text = s)

end WeekStart

end TimeWindow
