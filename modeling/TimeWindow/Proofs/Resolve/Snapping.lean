import TimeWindow.Proofs.Resolve.Reference

/-!
Snapping to the start of a period. On the wall it is a floor: the start is a midnight not after the
moment, it is its own start, later moments do not have earlier starts, and all moments of one period
have the same one. Only a week that begins before the calendar has no start.
-/

namespace TimeWindow

open Calendar (CalendarError Date Moment Wall dayMicros)

namespace Calendar.Wall

theorem day_timeOfDay_of_midnight {w : Wall} {n : Int} (h : w.micros = n * dayMicros) :
    w.day = n ∧ w.timeOfDay = 0 := by
  simp only [day, timeOfDay, dayMicros] at *
  omega

theorem day_mono {v w : Wall} (h : v.micros ≤ w.micros) : v.day ≤ w.day := by
  simp only [day, dayMicros]
  omega

theorem midnight_le_iff {v w : Wall} {n : Int} (h : v.micros = n * dayMicros) :
    v.micros ≤ w.micros ↔ n ≤ w.day := by
  simp only [day, dayMicros] at *
  omega

end Calendar.Wall

namespace Options

variable {o : Options} {reference : Reference} {t u s : Moment}

theorem day_of_referenceMoment (hne : reference ≠ .now)
    (h : o.referenceMoment reference t = .ok s) :
    s.wall.day = reference.firstDay o.weekStart t.wall.day ∧ s.wall.timeOfDay = 0 :=
  Wall.day_timeOfDay_of_midnight ((referenceMoment_eq_ok_iff hne).1 h).1

theorem exists_referenceMoment_iff (o : Options) (reference : Reference) (t : Moment) :
    (∃ s, o.referenceMoment reference t = .ok s) ↔
      Date.firstDay ≤ reference.firstDay o.weekStart t.wall.day := by
  cases reference with
  | now | today => exact ⟨fun _ => t.wall.firstDay_le_day, fun _ => ⟨_, rfl⟩⟩
  | thisMonth =>
    exact ⟨fun _ => Date.firstDay_le_monthStart t.wall.firstDay_le_day, fun _ => ⟨_, rfl⟩⟩
  | thisYear => exact ⟨fun _ => Date.firstDay_le_yearStart t.wall.firstDay_le_day, fun _ => ⟨_, rfl⟩⟩
  | thisWeek =>
    rw [referenceMoment, ← Except.not_exists_error_iff]
    simp only [Moment.startOfWeek_eq_error_iff_lt, exists_eq_left, Int.not_lt]

theorem referenceMoment_idem (hne : reference ≠ .now)
    (h : o.referenceMoment reference t = .ok s) : o.referenceMoment reference s = .ok s := by
  obtain ⟨hmidnight, hsecond, -⟩ := (referenceMoment_eq_ok_iff hne).1 h
  have hday := (day_of_referenceMoment hne h).1
  rw [referenceMoment_eq_ok_iff hne, hday, Reference.firstDay_firstDay]
  refine ⟨hmidnight, ?_, rfl⟩
  rw [hsecond, Bool.and_assoc, Bool.and_self]

theorem exists_referenceMoment_of_firstDay_le (hne : reference ≠ .now)
    (h : o.referenceMoment reference t = .ok s)
    (hle : reference.firstDay o.weekStart t.wall.day ≤ reference.firstDay o.weekStart u.wall.day) :
    ∃ s', o.referenceMoment reference u = .ok s' ∧
      s'.wall.micros = reference.firstDay o.weekStart u.wall.day * dayMicros := by
  have hfirst := (exists_referenceMoment_iff o reference t).1 ⟨s, h⟩
  obtain ⟨s', hs'⟩ := (exists_referenceMoment_iff o reference u).2 (Int.le_trans hfirst hle)
  exact ⟨s', hs', ((referenceMoment_eq_ok_iff hne).1 hs').1⟩

theorem referenceMoment_mono (hne : reference ≠ .now)
    (h : o.referenceMoment reference t = .ok s) (hle : t.wall.micros ≤ u.wall.micros) :
    ∃ s', o.referenceMoment reference u = .ok s' ∧ s.wall.micros ≤ s'.wall.micros := by
  have hdays := Reference.firstDay_mono o.weekStart reference (Wall.day_mono hle)
  obtain ⟨s', hs', hmidnight'⟩ := exists_referenceMoment_of_firstDay_le hne h hdays
  have hmidnight := ((referenceMoment_eq_ok_iff hne).1 h).1
  refine ⟨s', hs', ?_⟩
  rw [hmidnight, hmidnight']
  exact Int.mul_le_mul_of_nonneg_right hdays (by decide)

theorem referenceMoment_of_samePeriod (hne : reference ≠ .now)
    (h : o.referenceMoment reference t = .ok s)
    (hsame : reference.SamePeriod o.weekStart t.wall.day u.wall.day) :
    ∃ s', o.referenceMoment reference u = .ok s' ∧ s'.wall = s.wall := by
  have hdays := Reference.samePeriod_iff.1 hsame
  obtain ⟨s', hs', hmidnight'⟩ :=
    exists_referenceMoment_of_firstDay_le hne h (Int.le_of_eq hdays)
  have hmidnight := ((referenceMoment_eq_ok_iff hne).1 h).1
  refine ⟨s', hs', Wall.ext_micros ?_⟩
  rw [hmidnight, hmidnight', hdays]

theorem startOfWeek_floor (h : t.startOfWeek o.weekStart = .ok s) :
    s.wall.timeOfDay = 0 ∧ Date.weekday s.wall.day = o.weekStart.weekday ∧
      s.wall.micros ≤ t.startOfDay.wall.micros ∧
        t.wall.micros < s.wall.micros + 7 * dayMicros := by
  have hne : Reference.thisWeek ≠ .now := nofun
  obtain ⟨hmidnight, -⟩ := (referenceMoment_eq_ok_iff (o := o) hne).1 h
  obtain ⟨hday, htime⟩ := day_of_referenceMoment (o := o) hne h
  have hsince := WeekStart.daysSince_bounds o.weekStart t.wall.day
  have hmicros := t.wall.micros_eq
  have hbounds := t.wall.timeOfDay_bounds
  refine ⟨htime, ?_, ?_, ?_⟩
  · rw [WeekStart.weekday_eq_iff, hday, Reference.firstDay, WeekStart.daysSince_first]
  · change _ ≤ t.wall.day * dayMicros
    rw [hmidnight, Reference.firstDay]
    simp only [dayMicros]
    omega
  · rw [hmidnight, Reference.firstDay]
    simp only [dayMicros] at *
    omega

theorem startOfWeek_eq_error_iff_week {start : WeekStart} {e : CalendarError} :
    t.startOfWeek start = .error e ↔ e = .beyondRange ∧
      ∃ first, Date.weekday first = start.weekday ∧
        (first ≤ t.wall.day ∧ t.wall.day < first + 7) ∧ first < Date.dayNumber ⟨1, 1, 1⟩ := by
  have hsince := WeekStart.daysSince_bounds start t.wall.day
  have hcalendar : Date.dayNumber ⟨1, 1, 1⟩ = Date.firstDay := by decide
  rw [Moment.startOfWeek_eq_error_iff_lt, Reference.firstDay, hcalendar]
  refine and_congr_right fun _ => ⟨fun h => ?_, ?_⟩
  · exact ⟨_, WeekStart.weekday_eq_iff.2 (WeekStart.daysSince_first start t.wall.day), by omega, h⟩
  · rintro ⟨first, hfirst, hweek, hlt⟩
    have hzero := WeekStart.weekday_eq_iff.1 hfirst
    have hdays := WeekStart.daysSince_add start first (k := t.wall.day - first) (by omega) hzero
    rw [show first + (t.wall.day - first) = t.wall.day by omega] at hdays
    omega

theorem dates_of_starts (t : Moment) :
    (t.startOfDay.wall.timeOfDay = 0 ∧ t.startOfDay.wall.date = t.wall.date) ∧
    (t.startOfMonth.wall.timeOfDay = 0 ∧
      t.startOfMonth.wall.date = ⟨t.wall.date.year, t.wall.date.month, 1⟩) ∧
    t.startOfYear.wall.timeOfDay = 0 ∧ t.startOfYear.wall.date = ⟨t.wall.date.year, 1, 1⟩ := by
  obtain ⟨hday, htime⟩ := Wall.day_timeOfDay_of_midnight (w := t.startOfDay.wall) rfl
  obtain ⟨hmonth, htime'⟩ := Wall.day_timeOfDay_of_midnight (w := t.startOfMonth.wall) rfl
  obtain ⟨hyear, htime''⟩ := Wall.day_timeOfDay_of_midnight (w := t.startOfYear.wall) rfl
  refine ⟨⟨htime, ?_⟩, ⟨htime', ?_⟩, htime'', ?_⟩
  · rw [Wall.date, hday]
    rfl
  · rw [Wall.date, hmonth, Date.ofDayNumber_monthStart]
    rfl
  · rw [Wall.date, hyear, Date.ofDayNumber_yearStart]
    rfl

theorem starts_in_order (t : Moment) :
    t.startOfYear.wall.micros ≤ t.startOfMonth.wall.micros ∧
      t.startOfMonth.wall.micros ≤ t.startOfDay.wall.micros ∧
        t.startOfDay.wall.micros ≤ t.wall.micros := by
  have hpos : (0 : Int) ≤ dayMicros := by decide
  refine ⟨?_, ?_, ?_⟩
  · exact Int.mul_le_mul_of_nonneg_right (Date.yearStart_le_monthStart t.wall.day) hpos
  · exact Int.mul_le_mul_of_nonneg_right (Date.monthStart_le t.wall.day) hpos
  · exact (Wall.midnight_le_iff (v := t.startOfDay.wall) rfl).2 (Int.le_refl t.wall.day)

/-- Snapping is a floor on the wall. The start of a week is a midnight on the first day of a week,
less than seven days before the moment, and there is none exactly if the week began before the first
of January of the year 1; the other starts are the midnights that begin the day, the month and the
year. Each start is its own start, later moments have no earlier ones, and all moments of a period
have the same. -/
theorem starts_are_floors (o : Options) :
    (∀ t s : Moment, t.startOfWeek o.weekStart = .ok s →
      s.wall.timeOfDay = 0 ∧ Date.weekday s.wall.day = o.weekStart.weekday ∧
        s.wall.micros ≤ t.startOfDay.wall.micros ∧
          t.wall.micros < s.wall.micros + 7 * dayMicros) ∧
    (∀ (t : Moment) (e : CalendarError), t.startOfWeek o.weekStart = .error e ↔
      e = .beyondRange ∧ ∃ first, Date.weekday first = o.weekStart.weekday ∧
        (first ≤ t.wall.day ∧ t.wall.day < first + 7) ∧ first < Date.dayNumber ⟨1, 1, 1⟩) ∧
    (∀ t : Moment,
      (t.startOfDay.wall.timeOfDay = 0 ∧ t.startOfDay.wall.date = t.wall.date) ∧
      (t.startOfMonth.wall.timeOfDay = 0 ∧
        t.startOfMonth.wall.date = ⟨t.wall.date.year, t.wall.date.month, 1⟩) ∧
      t.startOfYear.wall.timeOfDay = 0 ∧ t.startOfYear.wall.date = ⟨t.wall.date.year, 1, 1⟩) ∧
    (∀ t : Moment, t.startOfYear.wall.micros ≤ t.startOfMonth.wall.micros ∧
      t.startOfMonth.wall.micros ≤ t.startOfDay.wall.micros ∧
        t.startOfDay.wall.micros ≤ t.wall.micros) ∧
    (∀ t : Moment, o.referenceMoment .today t = .ok t.startOfDay ∧
      o.referenceMoment .thisWeek t = t.startOfWeek o.weekStart ∧
      o.referenceMoment .thisMonth t = .ok t.startOfMonth ∧
      o.referenceMoment .thisYear t = .ok t.startOfYear) ∧
    ∀ reference, reference ≠ .now → ∀ t s : Moment, o.referenceMoment reference t = .ok s →
      o.referenceMoment reference s = .ok s ∧
      (∀ u : Moment, t.wall.micros ≤ u.wall.micros → ∃ s',
        o.referenceMoment reference u = .ok s' ∧ s.wall.micros ≤ s'.wall.micros) ∧
      ∀ u : Moment, reference.SamePeriod o.weekStart t.wall.day u.wall.day → ∃ s',
        o.referenceMoment reference u = .ok s' ∧ s'.wall = s.wall := by
  refine ⟨fun t s => startOfWeek_floor, fun t e => startOfWeek_eq_error_iff_week, dates_of_starts,
    starts_in_order, fun t => ⟨rfl, rfl, rfl, rfl⟩, fun reference hne t s h => ⟨?_, ?_, ?_⟩⟩
  · exact referenceMoment_idem hne h
  · exact fun u hle => referenceMoment_mono hne h hle
  · exact fun u hsame => referenceMoment_of_samePeriod hne h hsame

/-- The week of a leap day begins on the 25th of February and holds the first of March. -/
theorem starts_are_floors_leap_week :
    let o : Options := {}
    let leapDay : Moment := ⟨⟨1709251199999999, by decide, by decide⟩, false, .utc⟩
    let march : Moment := ⟨⟨1709294400000000, by decide, by decide⟩, true, .fixed 3600⟩
    let sunday : Wall := ⟨1708819200000000, by decide, by decide⟩
    leapDay.startOfWeek o.weekStart = .ok ⟨sunday, false, .utc⟩ ∧
      Date.weekday sunday.day = WeekStart.sunday.weekday ∧
      Reference.thisWeek.SamePeriod o.weekStart leapDay.wall.day march.wall.day ∧
      ∃ s, march.startOfWeek o.weekStart = .ok s ∧ s.wall = sunday := by
  intro o leapDay march sunday
  have hweek : leapDay.startOfWeek o.weekStart = .ok ⟨sunday, false, .utc⟩ := by decide +kernel
  have hsame : Reference.thisWeek.SamePeriod o.weekStart leapDay.wall.day march.wall.day :=
    ⟨19778, by decide, by decide, by decide⟩
  obtain ⟨hfloor, -, -, -, -, hperiod⟩ := starts_are_floors o
  have hconstant := (hperiod .thisWeek nofun leapDay _ hweek).2.2
  exact ⟨hweek, (hfloor leapDay _ hweek).2.1, hsame, hconstant march hsame⟩

end Options

end TimeWindow
