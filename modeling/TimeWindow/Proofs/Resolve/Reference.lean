import TimeWindow.Options
import TimeWindow.Proofs.Calendar.Period

/-!
The reference instants of periods. Each is the midnight that the first day of its period begins
with, and there is none only for the week that begins before the calendar.
-/

namespace TimeWindow.Options

open Calendar (CalendarError Moment Wall dayMicros)
open Calendar.WeekStart (daysSince)

variable {o : Options} {reference : Reference} {t start : Moment} {e : CalendarError}

/-- The period of a moment is the week that begins before the first year. -/
structure BeforeCalendar (o : Options) (reference : Reference) (t : Moment) : Prop where
  week_start : o.weekStart = .sunday
  this_week : reference = .thisWeek
  year_eq : t.wall.date.year = 1
  month_eq : t.wall.date.month = 1
  day_le : t.wall.date.day ≤ 6

theorem referenceMoment_eq_error_iff : o.referenceMoment reference t = .error e ↔
    e = .beyondRange ∧ o.BeforeCalendar reference t := by
  cases reference with
  | now | today | thisMonth | thisYear =>
    refine ⟨fun h => ?_, fun h => ?_⟩
    · cases h
    · cases h.2.this_week
  | thisWeek =>
    rw [referenceMoment, Moment.startOfWeek_eq_error_iff]
    constructor
    · rintro ⟨he, hstart, hyear, hmonth, hday⟩
      exact ⟨he, hstart, rfl, hyear, hmonth, hday⟩
    · rintro ⟨he, hstart, -, hyear, hmonth, hday⟩
      exact ⟨he, hstart, hyear, hmonth, hday⟩

theorem exists_referenceMoment (h : ¬o.BeforeCalendar reference t) :
    ∃ start, o.referenceMoment reference t = .ok start := by
  rw [← Except.forall_ne_error_iff]
  intro e herror
  exact h (referenceMoment_eq_error_iff.1 herror).2

theorem referenceMoment_zone (h : o.referenceMoment reference t = .ok start) :
    start.zone = t.zone := by
  cases reference with
  | now | today | thisMonth | thisYear =>
    cases h
    rfl
  | thisWeek =>
    obtain ⟨w, -, rfl⟩ := Except.map_eq_ok_iff.1 h
    rfl

theorem referenceMoment_eq_ok_iff (hne : reference ≠ .now) :
    o.referenceMoment reference t = .ok start ↔
      start.wall.micros = reference.firstDay o.weekStart t.wall.day * dayMicros ∧
        start.second = (t.second && decide (reference ≠ .thisWeek)) ∧ start.zone = t.zone := by
  obtain ⟨w, second, zone⟩ := start
  have hkept : ∀ v : Wall, (.ok { t with wall := v } : Except CalendarError Moment) =
      .ok ⟨w, second, zone⟩ ↔
        w.micros = v.micros ∧ second = (t.second && true) ∧ zone = t.zone := by
    intro v
    rw [Except.ok.injEq, Moment.mk.injEq, Bool.and_true, eq_comm (a := second), eq_comm (a := zone)]
    exact and_congr_left fun _ => ⟨fun h => by rw [h], fun h => (Wall.ext_micros h).symm⟩
  cases reference with
  | now => exact absurd rfl hne
  | today => exact hkept t.wall.startOfDay
  | thisMonth => exact hkept t.wall.startOfMonth
  | thisYear => exact hkept t.wall.startOfYear
  | thisWeek =>
    have hweek : t.wall.startOfDay.micros + -daysSince o.weekStart t.wall.day * dayMicros =
        Reference.firstDay o.weekStart .thisWeek t.wall.day * dayMicros := by
      rw [Reference.firstDay, Int.sub_mul, Int.neg_mul]
      rfl
    rw [referenceMoment, Moment.startOfWeek, Except.map_eq_ok_iff, ← hweek]
    simp only [Wall.move_eq_ok_iff, Moment.mk.injEq, decide_not, decide_true, Bool.not_true,
      Bool.and_false]
    constructor
    · rintro ⟨v, hv, rfl, rfl, rfl⟩
      exact ⟨hv, rfl, rfl⟩
    · rintro ⟨hw, rfl, rfl⟩
      exact ⟨w, hw, rfl, rfl, rfl⟩

end TimeWindow.Options
