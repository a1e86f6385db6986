import TimeWindow.Proofs.Calendar.Instant

/-!
Rules of the northern half of the earth, where daylight time starts and ends within one year. Each
of their seasons lasts for days, so a zone of such rules is a lasting one.
-/

namespace TimeWindow.Calendar

structure YearlyRule.Proper (rule : YearlyRule) : Prop where
  month_pos : 1 ≤ rule.month
  month_le : rule.month ≤ 12
  week_pos : 1 ≤ rule.week
  week_le : rule.week ≤ 5

theorem YearlyRule.Proper.daysInto_bounds {rule : YearlyRule} (h : rule.Proper) (year : Int) :
    Date.firstOfMonth (12 * year + (rule.month - 1)) ≤
        Date.firstOfMonth (12 * year) + rule.daysInto year ∧
      Date.firstOfMonth (12 * year) + rule.daysInto year <
        Date.firstOfMonth (12 * year + rule.month) := by
  have hweek := h.week_pos
  have hweek' := h.week_le
  have hlong := Date.daysInMonth_bounds year rule.month
  have hfirst := Date.dayNumber_first_of_month year h.month_pos h.month_le
  have hnext := Date.firstOfMonth_succ (12 * year + (rule.month - 1))
  obtain ⟨hyear, hmonth⟩ := Date.yearOfMonth_index year h.month_pos h.month_le
  rw [hyear, hmonth, Int.add_assoc, Int.sub_add_cancel] at hnext
  rw [daysInto, hfirst, Date.dayNumber_first_of_year, hnext]
  split <;> omega

namespace YearlyRules

variable {r : YearlyRules}

theorem yearAt_eq_iff {s year : Int} : yearAt s = year ↔
    Date.firstOfMonth (12 * year) * 86400 ≤ s ∧ s < Date.firstOfMonth (12 * year + 12) * 86400 := by
  have hle := Date.le_year_ofDayNumber_iff (s / 86400) year
  have hlt := Date.le_year_ofDayNumber_iff (s / 86400) (year + 1)
  rw [Date.dayNumber_first_of_year] at hle hlt
  rw [Int.mul_add, Int.mul_one] at hlt
  simp only [yearAt]
  omega

theorem isDaylight_iff {s : Int} (h : r.startIn (yearAt s) ≤ r.finishIn (yearAt s)) :
    r.isDaylight s = true ↔ r.startIn (yearAt s) ≤ s ∧ s < r.finishIn (yearAt s) := by
  rw [isDaylight, if_neg (Int.not_lt.2 h), Bool.and_eq_true, decide_eq_true_eq, decide_eq_true_eq]

/-- Rules by which daylight time starts after January and ends two months later at the earliest and
before December, where the hours of the changes are some days away at most. -/
structure Northern (r : YearlyRules) : Prop where
  start_proper : r.start.Proper
  finish_proper : r.finish.Proper
  start_month : 2 ≤ r.start.month
  months : r.start.month + 2 ≤ r.finish.month
  finish_month : r.finish.month ≤ 11
  start_second : (r.start.second - r.standard).natAbs ≤ 691200
  finish_second : (r.finish.second - r.daylight).natAbs ≤ 691200

theorem firstRuleDay_eq {year : Int} (h : 1970 ≤ year) :
    firstRuleDay year = Date.firstOfMonth (12 * year) := by
  rw [firstRuleDay, ← Date.dayNumber_first_of_year]
  split
  · rfl
  · rw [show year = 1970 by omega]
    rfl

theorem Northern.start_lt_finish (h : r.Northern) (year : Int) :
    r.startIn year + 86400 ≤ r.finishIn year := by
  have hstart := (h.start_proper.daysInto_bounds year).2
  have hfinish := (h.finish_proper.daysInto_bounds year).1
  have hmonths := h.months
  have hgap := Date.firstOfMonth_mono
    (show 12 * year + r.start.month ≤ 12 * year + (r.finish.month - 1) by omega)
  have hs := h.start_second
  have hf := h.finish_second
  simp only [startIn, finishIn, YearlyRule.secondIn]
  omega

theorem Northern.start_nonneg (h : r.Northern) (year : Int) :
    firstRuleDay year * 86400 ≤ r.startIn year := by
  have hstart := (h.start_proper.daysInto_bounds year).1
  have hmonth := h.start_month
  have hgap := Date.firstOfMonth_mono
    (show 12 * year ≤ 12 * year + (r.start.month - 1) by omega)
  have hs := h.start_second
  simp only [startIn, YearlyRule.secondIn]
  omega

theorem Northern.finish_le (h : r.Northern) {year : Int} (hyear : 1970 ≤ year) :
    r.finishIn year ≤ Date.firstOfMonth (12 * year + 12) * 86400 := by
  have hfinish := (h.finish_proper.daysInto_bounds year).2
  have hmonth := h.finish_month
  have hgap := Date.firstOfMonth_mono
    (show 12 * year + (r.finish.month : Int) ≤ 12 * year + 12 by omega)
  have hf := h.finish_second
  have hfirst := firstRuleDay_eq hyear
  simp only [finishIn, YearlyRule.secondIn]
  omega

theorem Northern.isDaylight_iff (h : r.Northern) {s : Int} :
    r.isDaylight s = true ↔ r.startIn (yearAt s) ≤ s ∧ s < r.finishIn (yearAt s) := by
  have := h.start_lt_finish (yearAt s)
  exact YearlyRules.isDaylight_iff (by omega)

theorem Northern.le_yearAt (h : r.Northern) {s : Int} (hs : r.isDaylight s = true) :
    1970 ≤ yearAt s := by
  have hstart := h.start_nonneg (yearAt s)
  have hle := (h.isDaylight_iff.1 hs).1
  obtain ⟨-, hlt⟩ := yearAt_eq_iff.1 (rfl : yearAt s = yearAt s)
  by_contra hearly
  have hzero : firstRuleDay (yearAt s) = 0 := if_neg (by omega)
  have hepoch : Date.firstOfMonth (12 * 1970) = 0 := by decide
  have hgap := Date.firstOfMonth_mono (show 12 * yearAt s + 12 ≤ 12 * 1970 by omega)
  omega

theorem Northern.season_le (h : r.Northern) {first finish : Int}
    (hseason : (Daylight.yearly r).Season first finish) :
    86400 ≤ finish - first := by
  have hlt := hseason.first_lt
  have hfirst : r.isDaylight first = true := hseason.inside first (Int.le_refl first) hlt
  have hout : r.isDaylight (first - 1) = false := hseason.before
  have hout' : r.isDaylight finish = false := hseason.after
  have hyear := h.le_yearAt hfirst
  have hstart := h.start_nonneg (yearAt first)
  have hfinish := h.finish_le hyear
  rw [firstRuleDay_eq hyear] at hstart
  obtain ⟨hle, hlt'⟩ := h.isDaylight_iff.1 hfirst
  -- The second before the season and the one after it cannot lie between the start and the finish.
  have hbegins : first = r.startIn (yearAt first) := by
    by_contra hne
    have hsame : yearAt (first - 1) = yearAt first := yearAt_eq_iff.2 ⟨by omega, by omega⟩
    have hbefore := h.isDaylight_iff (s := first - 1)
    rw [hsame, hout] at hbefore
    exact Bool.noConfusion (hbefore.2 ⟨by omega, by omega⟩)
  have hends : r.finishIn (yearAt first) ≤ finish := by
    by_contra hgt
    have hsame : yearAt finish = yearAt first := yearAt_eq_iff.2 ⟨by omega, by omega⟩
    have hafter := h.isDaylight_iff (s := finish)
    rw [hsame, hout'] at hafter
    exact Bool.noConfusion (hafter.2 ⟨by omega, by omega⟩)
  have := h.start_lt_finish (yearAt first)
  omega

theorem distanceAt_eq (r : YearlyRules) (s : Int) :
    r.distanceAt s = r.daylight ∨ r.distanceAt s = r.standard := by
  rw [distanceAt]
  split
  · exact .inl rfl
  · exact .inr rfl

theorem zone_savesWithinDay (h : (r.daylight - r.standard).natAbs < 86400) :
    r.zone.SavesWithinDay := by
  have hwinter := r.distanceAt_eq midwinter
  have hsummer := r.distanceAt_eq midsummer
  rw [zone, Daylight.zone]
  split
  · dsimp only [Zone.SavesWithinDay]
    omega
  · split
    · dsimp only [Zone.SavesWithinDay]
      omega
    · trivial

theorem zone_lasting (hle : r.standard ≤ r.daylight) (hlt : r.daylight - r.standard < 86400)
    (h : ∀ first finish, (Daylight.yearly r).Season first finish →
      r.daylight - r.standard ≤ finish - first) :
    r.zone.Lasting := by
  have hwinter := r.distanceAt_eq midwinter
  have hsummer := r.distanceAt_eq midsummer
  rw [zone, Daylight.zone]
  split
  · refine ⟨by dsimp only; omega, ?_⟩
    intro first finish hseason
    have := h first finish hseason
    dsimp only
    omega
  · split
    · refine ⟨by dsimp only; omega, ?_⟩
      intro first finish hseason
      have := h first finish hseason
      dsimp only
      omega
    · trivial

theorem Northern.zone_lasting (h : r.Northern) (hle : r.standard ≤ r.daylight)
    (hlt : r.daylight - r.standard < 86400) : r.zone.Lasting := by
  apply YearlyRules.zone_lasting hle hlt
  intro first finish hseason
  have := h.season_le hseason
  omega

end YearlyRules

end TimeWindow.Calendar
