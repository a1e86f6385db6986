import TimeWindow.Proofs.Calendar.Instant

/-!
Time that passes and time on the wall. Going back by minutes and hours moves the instant by exactly
so much, whatever the wall shows on the way; going back by days and weeks moves the date by exactly
so many days and keeps the time of day, however long these days are.
-/

namespace TimeWindow.Calendar

namespace Wall

variable {v w : Wall} {count : Int} {unit : TimeUnit}

theorem exactBack_elapsed (w : Wall) (count : Int) (hunit : unit.isElapsed = true) :
    w.exactBack count unit = w.micros - count * microsOf unit := by
  cases unit with
  | min | hour => rfl
  | day | week | month | year => cases hunit

theorem date_of_daysBack {days : Int} (h : v.micros = w.micros - days * dayMicros) :
    v.timeOfDay = w.timeOfDay ∧ v.date.dayNumber = w.date.dayNumber - days := by
  rw [dayNumber_date, dayNumber_date]
  simp only [timeOfDay, day, dayMicros] at *
  omega

end Wall

namespace Moment

variable {t t' : Moment} {count : Int} {unit : TimeUnit}

theorem epochMillis_back_elapsed (hz : t.zone ≠ .floating) (hunit : unit.isElapsed = true)
    (h : t.back count unit = .ok t') : ∃ ms, t.epochMillis = .ok ms ∧
      (t'.epochMillis = .ok (ms - microsOf unit / 1000 * count) ↔ ¬t'.Refused .dayApart) := by
  obtain ⟨u, v, hu, hv, hzone, hshows⟩ := back_elapsed hunit hz h
  refine ⟨u.micros / 1000, epochMillis_of_universal hz hu, ?_⟩
  have hms : u.micros / 1000 - microsOf unit / 1000 * count = v.micros / 1000 := by
    rw [hv, u.exactBack_elapsed count hunit]
    cases unit with
    | min | hour =>
      simp only [microsOf]
      omega
    | day | week | month | year => cases hunit
  rw [hms]
  exact hshows.epochMillis_eq_ok_iff (hzone ▸ hz)

theorem date_back_day (h : t.back count .day = .ok t') :
    t'.zone = t.zone ∧ t'.wall.timeOfDay = t.wall.timeOfDay ∧
      t'.wall.date.dayNumber = t.wall.date.dayNumber - count := by
  obtain ⟨hwall, -, hzone⟩ := back_wall rfl h
  exact ⟨hzone, Wall.date_of_daysBack hwall⟩

theorem date_back_week (h : t.back count .week = .ok t') :
    t'.zone = t.zone ∧ t'.wall.timeOfDay = t.wall.timeOfDay ∧
      t'.wall.date.dayNumber = t.wall.date.dayNumber - 7 * count := by
  obtain ⟨hwall, -, hzone⟩ := back_wall rfl h
  refine ⟨hzone, Wall.date_of_daysBack ?_⟩
  rw [hwall, Wall.exactBack, secondMicros, dayMicros]
  omega

/-- Minutes and hours are time that passes and days and weeks are time on the wall, in every zone
and for every count. An instant is missing only where the wall is a day or more from universal time.
-/
theorem back_passes_or_keeps_time (hz : t.zone ≠ .floating) (n : Int) :
    (∀ t', t.back n .min = .ok t' → ∃ ms, t.epochMillis = .ok ms ∧
      (t'.epochMillis = .ok (ms - 60000 * n) ↔ ¬t'.Refused .dayApart)) ∧
    (∀ t', t.back n .hour = .ok t' → ∃ ms, t.epochMillis = .ok ms ∧
      (t'.epochMillis = .ok (ms - 3600000 * n) ↔ ¬t'.Refused .dayApart)) ∧
    (∀ t', t.back n .day = .ok t' → t'.zone = t.zone ∧
      t'.wall.timeOfDay = t.wall.timeOfDay ∧
        t'.wall.date.dayNumber = t.wall.date.dayNumber - n) ∧
    (∀ t', t.back n .week = .ok t' → t'.zone = t.zone ∧
      t'.wall.timeOfDay = t.wall.timeOfDay ∧
        t'.wall.date.dayNumber = t.wall.date.dayNumber - 7 * n) := by
  refine ⟨fun t' h => ?_, fun t' h => ?_, fun t' h => date_back_day h, fun t' h => date_back_week h⟩
  · exact epochMillis_back_elapsed hz rfl h
  · exact epochMillis_back_elapsed hz rfl h

/-- On the day on which daylight time starts, a day on the wall is an hour longer than the time that
has passed. -/
theorem back_passes_or_keeps_time_short_day :
    let rules : YearlyRules := ⟨-18000, -14400, ⟨3, 2, 0, 7200⟩, ⟨11, 1, 0, 7200⟩⟩
    let noon : Moment := ⟨⟨1772971200000000, by decide, by decide⟩, false, rules.zone⟩
    (∃ t', noon.back 24 .hour = .ok t' ∧ t'.epochMillis = .ok 1772899200000) ∧
      (∃ t', noon.back 1 .day = .ok t' ∧ t'.wall.timeOfDay = noon.wall.timeOfDay ∧
        t'.epochMillis = .ok 1772902800000) := by
  intro rules noon
  have hz : noon.zone ≠ .floating := by decide +kernel
  have hnow : noon.epochMillis = .ok 1772985600000 := by decide +kernel
  let eleven : Moment := ⟨⟨1772881200000000, by decide, by decide⟩, false, rules.zone⟩
  let before : Moment := ⟨⟨1772884800000000, by decide, by decide⟩, false, rules.zone⟩
  have hhour : noon.back 24 .hour = .ok eleven := by decide +kernel
  have hday : noon.back 1 .day = .ok before := by decide +kernel
  refine ⟨⟨eleven, hhour, ?_⟩, before, hday, ?_, by decide +kernel⟩
  · obtain ⟨ms, hms, hiff⟩ := (back_passes_or_keeps_time hz 24).2.1 eleven hhour
    cases hms.symm.trans hnow
    refine hiff.2 fun hrefused => ?_
    have herror := epochMillis_eq_error_iff.2 hrefused
    exact absurd herror (by decide +kernel)
  · exact ((back_passes_or_keeps_time hz 1).2.2.1 before hday).2.1

/-- In a zone that is a whole day ahead in summer, a day of hours leads to a moment whose place in
time is refused. -/
theorem back_hours_to_refused :
    let rules : YearlyRules := ⟨82800, 86400, ⟨3, 5, 0, 3600⟩, ⟨10, 5, 0, 7200⟩⟩
    let noon : Moment := ⟨⟨1774699200000000, by decide, by decide⟩, false, rules.zone⟩
    noon.epochMillis = .ok 1774616400000 ∧ ∃ t', noon.back (-24) .hour = .ok t' ∧
      t'.epochMillis ≠ .ok (1774616400000 - 3600000 * -24) := by
  intro rules noon
  let later : Moment := ⟨⟨1774789200000000, by decide, by decide⟩, false, rules.zone⟩
  exact ⟨by decide +kernel, later, by decide +kernel, by decide +kernel⟩

end Moment

end TimeWindow.Calendar
