import TimeWindow.Calendar.Period
import TimeWindow.Proofs.Calendar.Exact

/-!
Periods of days. The days, weeks, months and years of the calendar part all days, and two days are
in one period exactly if the period has the same first day for both. Only the week of the first six
days of the year 1 begins before the calendar, and only where weeks begin on Sunday.
-/

namespace TimeWindow

open Calendar (Date)
open Calendar.WeekStart (daysSince)

def WeekStart.weekday : WeekStart → Int
  | .monday => 0
  | .sunday => 6

namespace Reference

/-- Whether two days lie in one period. The period of `now` is its day. -/
def SamePeriod (start : WeekStart) : Reference → Int → Int → Prop
  | .now, a, b | .today, a, b => a = b
  | .thisWeek, a, b => ∃ first, Date.weekday first = start.weekday ∧
      (first ≤ a ∧ a < first + 7) ∧ (first ≤ b ∧ b < first + 7)
  | .thisMonth, a, b => (Date.ofDayNumber a).year = (Date.ofDayNumber b).year ∧
      (Date.ofDayNumber a).month = (Date.ofDayNumber b).month
  | .thisYear, a, b => (Date.ofDayNumber a).year = (Date.ofDayNumber b).year

def firstDay (start : WeekStart) : Reference → Int → Int
  | .now, n | .today, n => n
  | .thisWeek, n => n - daysSince start n
  | .thisMonth, n => Date.monthStart n
  | .thisYear, n => Date.yearStart n

end Reference

namespace WeekStart

theorem daysSince_bounds (start : WeekStart) (n : Int) :
    0 ≤ daysSince start n ∧ daysSince start n < 7 := by
  cases start <;> simp only [daysSince, Date.weekday] <;> omega

theorem weekday_eq_iff {start : WeekStart} {n : Int} :
    Date.weekday n = start.weekday ↔ daysSince start n = 0 := by
  cases start with
  | monday => exact Iff.rfl
  | sunday =>
    simp only [daysSince, weekday, Date.weekday]
    omega

theorem daysSince_add (start : WeekStart) (n : Int) {k : Int} (h : 0 ≤ k ∧ k < 7)
    (hn : daysSince start n = 0) : daysSince start (n + k) = k := by
  cases start <;> simp only [daysSince, Date.weekday] at * <;> omega

theorem daysSince_first (start : WeekStart) (n : Int) :
    daysSince start (n - daysSince start n) = 0 := by
  cases start <;> simp only [daysSince, Date.weekday] <;> omega

end WeekStart

namespace Calendar.Date

theorem day_ofDayNumber (n : Int) :
    ((ofDayNumber n).day : Int) = dayOfMonth (n + origin) + 1 := by
  have hd := dayOfMonth_nonneg (n + origin)
  rcases Int.lt_or_le (marchMonth (n + origin)) 10 with h | h
  · rw [ofDayNumber_of_early h]
    dsimp only
    omega
  · rw [ofDayNumber_of_late h]
    dsimp only
    omega

theorem monthStart_eq (n : Int) : monthStart n = firstOfMonth (ofDayNumber n).monthIndex := by
  have hfirst := dayNumber_eq_firstOfMonth (ofDayNumber_valid n)
  have hday := day_ofDayNumber n
  rw [dayNumber_ofDayNumber] at hfirst
  rw [monthStart]
  omega

theorem yearStart_eq_firstOfMonth (n : Int) :
    yearStart n = firstOfMonth (12 * (ofDayNumber n).year) :=
  dayNumber_first_of_year _

theorem firstOfMonth_inj {i j : Int} : firstOfMonth i = firstOfMonth j ↔ i = j := by
  refine ⟨fun h => ?_, fun h => by rw [h]⟩
  rcases Int.lt_trichotomy i j with hlt | heq | hgt
  · have := firstOfMonth_mono (Int.le_of_lt hlt)
    omega
  · exact heq
  · have := firstOfMonth_mono (Int.le_of_lt hgt)
    omega

theorem monthIndex_eq_iff {d e : Date} (hd : d.Valid) (he : e.Valid) :
    d.monthIndex = e.monthIndex ↔ d.year = e.year ∧ d.month = e.month := by
  have hd₁ := hd.month_pos
  have hd₂ := hd.month_le
  have he₁ := he.month_pos
  have he₂ := he.month_le
  simp only [monthIndex]
  omega

theorem ofDayNumber_firstOfMonth (index : Int) :
    ofDayNumber (firstOfMonth index) = ⟨yearOfMonth index, monthOfYear index, 1⟩ := by
  have hlong := daysInMonth_bounds (yearOfMonth index) (monthOfYear index)
  have hvalid : Valid ⟨yearOfMonth index, monthOfYear index, 1⟩ := by
    refine ⟨Nat.succ_pos _, ?_, Nat.le_refl 1, by dsimp only; omega⟩
    change (index % 12).toNat + 1 ≤ 12
    omega
  exact ofDayNumber_dayNumber hvalid

theorem ofDayNumber_monthStart (n : Int) : ofDayNumber (monthStart n) =
    ⟨(ofDayNumber n).year, (ofDayNumber n).month, 1⟩ := by
  obtain ⟨hyear, hmonth⟩ := (ofDayNumber_valid n).yearOfMonth_monthIndex
  rw [monthStart_eq, ofDayNumber_firstOfMonth, hyear, hmonth]

theorem ofDayNumber_yearStart (n : Int) :
    ofDayNumber (yearStart n) = ⟨(ofDayNumber n).year, 1, 1⟩ := by
  have hlong := daysInMonth_bounds (ofDayNumber n).year 1
  have hvalid : Valid ⟨(ofDayNumber n).year, 1, 1⟩ :=
    ⟨Nat.le_refl 1, Nat.le_add_left 1 11, Nat.le_refl 1, by dsimp only; omega⟩
  exact ofDayNumber_dayNumber hvalid

theorem monthStart_mono {a b : Int} (h : a ≤ b) : monthStart a ≤ monthStart b := by
  have hindex : (ofDayNumber a).monthIndex ≤ (ofDayNumber b).monthIndex := by
    by_contra hlt
    have hdays := dayNumber_lt_of_monthIndex_lt (ofDayNumber_valid b) (ofDayNumber_valid a)
      (Int.not_le.1 hlt)
    rw [dayNumber_ofDayNumber, dayNumber_ofDayNumber] at hdays
    omega
  have := firstOfMonth_mono hindex
  rw [monthStart_eq, monthStart_eq]
  omega

theorem yearStart_mono {a b : Int} (h : a ≤ b) : yearStart a ≤ yearStart b := by
  have hyear : (ofDayNumber a).year ≤ (ofDayNumber b).year := by
    rw [le_year_ofDayNumber_iff]
    exact Int.le_trans (yearStart_le a) h
  have := firstOfMonth_mono (show 12 * (ofDayNumber a).year ≤ 12 * (ofDayNumber b).year by omega)
  rw [yearStart_eq_firstOfMonth, yearStart_eq_firstOfMonth]
  omega

theorem yearStart_le_monthStart (n : Int) : yearStart n ≤ monthStart n := by
  have hmonth := (ofDayNumber_valid n).month_pos
  have hindex : 12 * (ofDayNumber n).year ≤ (ofDayNumber n).monthIndex := by
    simp only [monthIndex]
    omega
  have := firstOfMonth_mono hindex
  rw [yearStart_eq_firstOfMonth, monthStart_eq]
  omega

end Calendar.Date

namespace Reference

variable {start : WeekStart} {reference : Reference} {a b : Int}

theorem firstDay_le (start : WeekStart) (reference : Reference) (n : Int) :
    reference.firstDay start n ≤ n := by
  cases reference with
  | now | today => exact Int.le_refl n
  | thisWeek =>
    have := (WeekStart.daysSince_bounds start n).1
    simp only [firstDay]
    omega
  | thisMonth => exact Date.monthStart_le n
  | thisYear => exact Date.yearStart_le n

theorem firstDay_firstDay (start : WeekStart) (reference : Reference) (n : Int) :
    reference.firstDay start (reference.firstDay start n) = reference.firstDay start n := by
  cases reference with
  | now | today => rfl
  | thisWeek => rw [firstDay, firstDay, WeekStart.daysSince_first, Int.sub_zero]
  | thisMonth =>
    rw [firstDay, firstDay, Date.monthStart_eq (Date.monthStart n), Date.ofDayNumber_monthStart,
      Date.monthStart_eq n]
    rfl
  | thisYear => rw [firstDay, firstDay, Date.yearStart, Date.ofDayNumber_yearStart, Date.yearStart]

theorem firstDay_mono (start : WeekStart) (reference : Reference) {a b : Int} (h : a ≤ b) :
    reference.firstDay start a ≤ reference.firstDay start b := by
  cases reference with
  | now | today => exact h
  | thisWeek =>
    cases start <;> simp only [firstDay, daysSince, Date.weekday] <;> omega
  | thisMonth => exact Date.monthStart_mono h
  | thisYear => exact Date.yearStart_mono h

theorem samePeriod_iff :
    reference.SamePeriod start a b ↔ reference.firstDay start a = reference.firstDay start b := by
  cases reference with
  | now | today => exact Iff.rfl
  | thisWeek =>
    simp only [SamePeriod, firstDay]
    constructor
    · rintro ⟨first, hfirst, ha, hb⟩
      have hzero := WeekStart.weekday_eq_iff.1 hfirst
      have hda := WeekStart.daysSince_add start first (k := a - first) (by omega) hzero
      have hdb := WeekStart.daysSince_add start first (k := b - first) (by omega) hzero
      rw [show first + (a - first) = a by omega] at hda
      rw [show first + (b - first) = b by omega] at hdb
      omega
    · intro h
      have hda := WeekStart.daysSince_bounds start a
      have hdb := WeekStart.daysSince_bounds start b
      exact ⟨_, WeekStart.weekday_eq_iff.2 (WeekStart.daysSince_first start a), by omega, by omega⟩
  | thisMonth =>
    rw [firstDay, firstDay, Date.monthStart_eq, Date.monthStart_eq, Date.firstOfMonth_inj,
      Date.monthIndex_eq_iff (Date.ofDayNumber_valid a) (Date.ofDayNumber_valid b)]
    rfl
  | thisYear =>
    rw [firstDay, firstDay, Date.yearStart_eq_firstOfMonth, Date.yearStart_eq_firstOfMonth,
      Date.firstOfMonth_inj]
    simp only [SamePeriod]
    omega

theorem samePeriod_firstDay (start : WeekStart) (reference : Reference) (n : Int) :
    reference.SamePeriod start (reference.firstDay start n) n :=
  samePeriod_iff.2 (firstDay_firstDay start reference n)

theorem SamePeriod.firstDay_le (h : reference.SamePeriod start a b) :
    reference.firstDay start b ≤ a := by
  rw [← samePeriod_iff.1 h]
  exact Reference.firstDay_le start reference a

end Reference

namespace Calendar

theorem Wall.day_lt_iff (w : Wall) : w.day < Date.firstDay + 6 ↔
    w.date.year = 1 ∧ w.date.month = 1 ∧ w.date.day ≤ 6 := by
  have hfirst := w.firstDay_le_day
  constructor
  · intro h
    have hcases : w.day = -719162 ∨ w.day = -719161 ∨ w.day = -719160 ∨ w.day = -719159 ∨
        w.day = -719158 ∨ w.day = -719157 := by
      simp only [Date.firstDay] at *
      omega
    rw [date]
    rcases hcases with h | h | h | h | h | h <;> rw [h] <;> decide
  · rintro ⟨hyear, hmonth, hday⟩
    have hnumber := Date.dayNumber_eq_firstOfMonth w.date_valid
    have hjanuary : Date.firstOfMonth 12 = Date.firstDay := by decide
    rw [dayNumber_date, Date.monthIndex, hyear, hmonth] at hnumber
    change w.day = Date.firstOfMonth 12 + _ - 1 at hnumber
    omega

theorem Moment.startOfWeek_eq_error_iff_lt {t : Moment} {start : WeekStart} {e : CalendarError} :
    t.startOfWeek start = .error e ↔
      e = .beyondRange ∧ Reference.firstDay start .thisWeek t.wall.day < Date.firstDay := by
  have hlast := t.wall.startOfDay.le_last
  have hsince := (WeekStart.daysSince_bounds start t.wall.day).1
  have hmidnight : t.wall.startOfDay.micros = t.wall.day * dayMicros := rfl
  rw [startOfWeek, Except.map_eq_error_iff, Wall.move_eq_error_iff, Reference.firstDay, hmidnight]
  rw [hmidnight] at hlast
  refine and_congr_right fun _ => ?_
  simp only [Date.firstDay, dayMicros, firstMicros, lastMicros] at *
  omega

theorem Moment.startOfWeek_eq_error_iff {t : Moment} {start : WeekStart} {e : CalendarError} :
    t.startOfWeek start = .error e ↔ e = .beyondRange ∧ start = .sunday ∧
      t.wall.date.year = 1 ∧ t.wall.date.month = 1 ∧ t.wall.date.day ≤ 6 := by
  have hfirst := t.wall.firstDay_le_day
  rw [startOfWeek_eq_error_iff_lt, ← Wall.day_lt_iff, Reference.firstDay]
  refine and_congr_right fun _ => ?_
  cases start with
  | sunday =>
    simp only [WeekStart.daysSince, Date.weekday, Date.firstDay, true_and] at *
    omega
  | monday =>
    simp only [WeekStart.daysSince, Date.weekday, Date.firstDay, reduceCtorEq, false_and,
      iff_false] at *
    omega

end Calendar

end TimeWindow
