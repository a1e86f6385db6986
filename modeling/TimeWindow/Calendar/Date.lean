/-!
Days of the Gregorian calendar, carried on without end in both directions. A day is a number, the
days since the first of January 1970, or a date; `dayNumber` and `ofDayNumber` go between the two.
Counting years from March puts the leap day last, so months begin after `(153 * m + 2) / 5` days.
-/

namespace TimeWindow.Calendar

structure Date where
  year : Int
  month : Nat
  day : Nat
deriving DecidableEq, Repr

def isLeap (year : Int) : Bool :=
  year % 4 = 0 && (year % 100 ≠ 0 || year % 400 = 0)

def daysInMonth (year : Int) (month : Nat) : Nat :=
  if month = 2 then (if isLeap year then 29 else 28)
  else if month = 4 ∨ month = 6 ∨ month = 9 ∨ month = 11 then 30
  else 31

namespace Date

/-- The day that 1970 begins with, counted from the first of March of the year zero. -/
def origin : Int := 719468

/-- The days before a year that begins in March. -/
def daysBefore (year : Int) : Int :=
  365 * year + year / 4 - year / 100 + year / 400

def dayNumber (d : Date) : Int :=
  let early := d.month ≤ 2
  let year := if early then d.year - 1 else d.year
  let month : Int := if early then d.month + 9 else d.month - 3
  daysBefore year + (153 * month + 2) / 5 + d.day - 1 - origin

def marchYear (n : Int) : Int :=
  let guess := 400 * n / 146097
  if n < daysBefore guess then guess - 1
  else if daysBefore (guess + 1) ≤ n then guess + 1
  else guess

def dayOfMarchYear (n : Int) : Int :=
  n - daysBefore (marchYear n)

def marchMonth (n : Int) : Int :=
  (5 * dayOfMarchYear n + 2) / 153

def dayOfMonth (n : Int) : Int :=
  dayOfMarchYear n - (153 * marchMonth n + 2) / 5

def ofDayNumber (number : Int) : Date :=
  let n := number + origin
  let month := marchMonth n
  let day := (dayOfMonth n + 1).toNat
  if month < 10 then ⟨marchYear n, (month + 3).toNat, day⟩
  else ⟨marchYear n + 1, (month - 9).toNat, day⟩

def firstDay : Int := -719162

theorem daysBefore_marchYear_le (n : Int) : daysBefore (marchYear n) ≤ n := by
  unfold marchYear daysBefore
  dsimp only
  split
  · omega
  · split <;> omega

theorem lt_daysBefore_marchYear (n : Int) : n < daysBefore (marchYear n + 1) := by
  unfold marchYear daysBefore
  dsimp only
  split
  · omega
  · split <;> omega

theorem dayOfMarchYear_nonneg (n : Int) : 0 ≤ dayOfMarchYear n := by
  have := daysBefore_marchYear_le n
  unfold dayOfMarchYear
  omega

theorem dayOfMonth_nonneg (n : Int) : 0 ≤ dayOfMonth n := by
  have := dayOfMarchYear_nonneg n
  unfold dayOfMonth marchMonth
  omega

theorem daysBefore_nonneg {year : Int} (h : 0 ≤ year) : 0 ≤ daysBefore year := by
  unfold daysBefore
  omega

theorem marchYear_nonneg {n : Int} (h : 0 ≤ n) : 0 ≤ marchYear n := by
  have hlt := lt_daysBefore_marchYear n
  unfold daysBefore at hlt
  omega

theorem marchMonth_lt_ten_iff (n : Int) : marchMonth n < 10 ↔ dayOfMarchYear n < 306 := by
  unfold marchMonth
  omega

/-- The days since the last Monday; a Monday is 0 and a Sunday 6. -/
def weekday (number : Int) : Int :=
  (number + 3) % 7

end Date

end TimeWindow.Calendar
