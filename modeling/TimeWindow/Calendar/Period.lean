import TimeWindow.Calendar.Moment
import TimeWindow.Vocabulary

/-!
The starts of the periods that a moment lies in: its day, week, month and year. They are found on
the wall. The start of a day, a month or a year keeps the pass of the moment, the start of a week is
a first pass. Only a week may have begun before the first year.
-/

namespace TimeWindow.Calendar

namespace Date

def monthStart (number : Int) : Int :=
  number - dayOfMonth (number + origin)

def yearStart (number : Int) : Int :=
  dayNumber ⟨(ofDayNumber number).year, 1, 1⟩

theorem monthStart_le (number : Int) : monthStart number ≤ number := by
  have := dayOfMonth_nonneg (number + origin)
  unfold monthStart
  omega

theorem firstDay_le_monthStart {number : Int} (h : firstDay ≤ number) :
    firstDay ≤ monthStart number := by
  have hy : 0 ≤ marchYear (number + origin) :=
    marchYear_nonneg (by unfold firstDay origin at *; omega)
  have hd := daysBefore_nonneg hy
  have hle := daysBefore_marchYear_le (number + origin)
  have hz : marchYear (number + origin) = 0 ∨ 365 ≤ daysBefore (marchYear (number + origin)) := by
    unfold daysBefore
    omega
  unfold monthStart dayOfMonth marchMonth dayOfMarchYear
  unfold firstDay at *
  rcases hz with hz | hz
  · rw [hz] at hd hle ⊢
    simp only [daysBefore, origin] at *
    omega
  · simp only [origin] at *
    omega

theorem yearStart_eq (number : Int) : yearStart number =
    if marchMonth (number + origin) < 10 then
      daysBefore (marchYear (number + origin) - 1) + 306 - origin
    else daysBefore (marchYear (number + origin)) + 306 - origin := by
  unfold yearStart ofDayNumber
  dsimp only
  split <;> simp [dayNumber]

theorem yearStart_le (number : Int) : yearStart number ≤ number := by
  have h := daysBefore_marchYear_le (number + origin)
  have hm := marchMonth_lt_ten_iff (number + origin)
  have step : daysBefore (marchYear (number + origin) - 1) + 306 ≤
      daysBefore (marchYear (number + origin)) := by
    unfold daysBefore
    omega
  rw [yearStart_eq]
  unfold dayOfMarchYear at hm
  split <;> omega

theorem firstDay_le_yearStart {number : Int} (h : firstDay ≤ number) :
    firstDay ≤ yearStart number := by
  have hy : 0 ≤ marchYear (number + origin) :=
    marchYear_nonneg (by unfold firstDay origin at *; omega)
  have hm := marchMonth_lt_ten_iff (number + origin)
  have hz : marchYear (number + origin) = 0 ∨
      0 ≤ daysBefore (marchYear (number + origin) - 1) := by
    rcases Int.lt_or_le 0 (marchYear (number + origin)) with hpos | hneg
    · exact .inr (daysBefore_nonneg (by omega))
    · exact .inl (by omega)
  have hd := daysBefore_nonneg hy
  rw [yearStart_eq]
  unfold dayOfMarchYear at hm
  unfold firstDay at *
  rcases hz with hz | hz
  · rw [hz] at hm hd ⊢
    split <;> simp only [daysBefore, origin] at * <;> omega
  · split <;> simp only [origin] at * <;> omega

end Date

namespace Wall

theorem firstDay_le_day (w : Wall) : Date.firstDay ≤ w.day := by
  have := w.first_le
  unfold day Date.firstDay firstMicros dayMicros at *
  omega

def midnight (w : Wall) (number : Int) (lower : Date.firstDay ≤ number) (upper : number ≤ w.day) :
    Wall where
  micros := number * dayMicros
  first_le := by unfold firstMicros Date.firstDay dayMicros at *; omega
  le_last := by
    have := w.le_last
    unfold day dayMicros at *
    omega

def startOfDay (w : Wall) : Wall :=
  w.midnight w.day w.firstDay_le_day (Int.le_refl _)

def startOfMonth (w : Wall) : Wall :=
  w.midnight (Date.monthStart w.day) (Date.firstDay_le_monthStart w.firstDay_le_day)
    (Date.monthStart_le _)

def startOfYear (w : Wall) : Wall :=
  w.midnight (Date.yearStart w.day) (Date.firstDay_le_yearStart w.firstDay_le_day)
    (Date.yearStart_le _)

end Wall

def WeekStart.daysSince (start : WeekStart) (number : Int) : Int :=
  match start with
  | .monday => Date.weekday number
  | .sunday => (Date.weekday number + 1) % 7

namespace Moment

def startOfDay (t : Moment) : Moment :=
  { t with wall := t.wall.startOfDay }

def startOfMonth (t : Moment) : Moment :=
  { t with wall := t.wall.startOfMonth }

def startOfYear (t : Moment) : Moment :=
  { t with wall := t.wall.startOfYear }

def startOfWeek (t : Moment) (start : WeekStart) : Except CalendarError Moment :=
  (t.wall.startOfDay.move (-(WeekStart.daysSince start t.wall.day) * dayMicros)).map fun wall =>
    { wall, second := false, zone := t.zone }

end Moment

end TimeWindow.Calendar
