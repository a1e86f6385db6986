import TimeWindow.Proofs.Calendar.Carry
import TimeWindow.Proofs.Calendar.Gregorian

/-!
The wall time a number of units before another one, on a wall that shows every year. The steps of
the calendar lead there whenever the result is a time of the years 1 to 9999, and fail otherwise.
One more unit always leads further back, and by a day at least where the unit is not time that
passes.
-/

namespace TimeWindow.Calendar

namespace Wall

theorem ext_micros {v w : Wall} (h : v.micros = w.micros) : v = w := by
  cases v
  cases w
  cases h
  rfl

theorem ofMicros?_eq_some_iff {n : Int} {v : Wall} : ofMicros? n = some v ↔ v.micros = n := by
  rw [ofMicros?]
  constructor
  · intro h
    split at h
    · cases h
      rfl
    · cases h
  · rintro rfl
    rw [dif_pos ⟨v.first_le, v.le_last⟩]

theorem ofMicros?_eq_none_iff {n : Int} :
    ofMicros? n = none ↔ ¬(firstMicros ≤ n ∧ n ≤ lastMicros) := by
  rw [ofMicros?]
  split <;> simp_all

theorem move_eq_error_iff {w : Wall} {span : Int} {e : CalendarError} :
    w.move span = .error e ↔
      e = .beyondRange ∧ ¬(firstMicros ≤ w.micros + span ∧ w.micros + span ≤ lastMicros) := by
  rw [← ofMicros?_eq_none_iff, move]
  cases ofMicros? (w.micros + span) with
  | none => simp [eq_comm]
  | some moved => simp

theorem date_valid (w : Wall) : w.date.Valid :=
  Date.ofDayNumber_valid w.day

theorem dayNumber_date (w : Wall) : w.date.dayNumber = w.day :=
  Date.dayNumber_ofDayNumber w.day

theorem timeOfDay_bounds (w : Wall) : 0 ≤ w.timeOfDay ∧ w.timeOfDay < dayMicros := by
  simp only [timeOfDay, dayMicros]
  omega

theorem micros_eq (w : Wall) : w.micros = w.day * dayMicros + w.timeOfDay := by
  simp only [day, timeOfDay, dayMicros]
  omega

theorem date_eq_of_micros {w : Wall} {d : Date} {t : Int} (hd : d.Valid)
    (ht : 0 ≤ t ∧ t < dayMicros) (h : w.micros = d.dayNumber * dayMicros + t) :
    w.date = d ∧ w.timeOfDay = t := by
  have hday : w.day = d.dayNumber := by
    simp only [day, dayMicros] at *
    omega
  refine ⟨?_, ?_⟩
  · rw [date, hday, Date.ofDayNumber_dayNumber hd]
  · rw [timeOfDay, h]
    simp only [dayMicros] at *
    omega

end Wall

def yearOfMicros (n : Int) : Int :=
  (Date.ofDayNumber (n / dayMicros)).year

theorem one_le_yearOfMicros_iff (n : Int) : 1 ≤ yearOfMicros n ↔ firstMicros ≤ n := by
  have hfirst : Date.dayNumber ⟨1, 1, 1⟩ = -719162 := by decide
  rw [yearOfMicros, Date.le_year_ofDayNumber_iff, hfirst]
  simp only [dayMicros, firstMicros]
  omega

theorem yearOfMicros_le_iff (n : Int) : yearOfMicros n ≤ 9999 ↔ n ≤ lastMicros := by
  have hnext : Date.dayNumber ⟨10000, 1, 1⟩ = 2932897 := by decide
  have h := Date.le_year_ofDayNumber_iff (n / dayMicros) 10000
  rw [hnext, ← yearOfMicros] at h
  simp only [dayMicros, lastMicros] at *
  omega

theorem Wall.year_bounds (w : Wall) : 1 ≤ w.date.year ∧ w.date.year ≤ 9999 :=
  ⟨(one_le_yearOfMicros_iff w.micros).2 w.first_le, (yearOfMicros_le_iff w.micros).2 w.le_last⟩

def Wall.nearest (n : Int) : Wall :=
  ⟨max firstMicros (min n lastMicros), Int.le_max_left _ _,
    Int.max_le.2 ⟨by decide, Int.min_le_right _ _⟩⟩

namespace Wall

variable {m n : Int}

theorem nearest_of_le (h : n ≤ firstMicros) : nearest n = first := by
  apply ext_micros
  change max firstMicros (min n lastMicros) = firstMicros
  omega

theorem nearest_of_ge (h : lastMicros ≤ n) : nearest n = last := by
  apply ext_micros
  change max firstMicros (min n lastMicros) = lastMicros
  simp only [firstMicros, lastMicros] at *
  omega

theorem micros_nearest (hle : firstMicros ≤ n) (hge : n ≤ lastMicros) : (nearest n).micros = n := by
  change max firstMicros (min n lastMicros) = n
  omega

theorem nearest_mono (h : m ≤ n) : (nearest m).micros ≤ (nearest n).micros := by
  change max firstMicros (min m lastMicros) ≤ max firstMicros (min n lastMicros)
  omega

end Wall

def Date.onMonth (d : Date) (index : Int) : Date :=
  d.inMonth (yearOfMonth index) (monthOfYear index)

/-- The time so many months before a wall time: on the same day of the month, or on the last one,
and at the same time of day. -/
def Wall.monthsBack (w : Wall) (months : Int) : Int :=
  (w.date.onMonth (w.date.monthIndex - months)).dayNumber * dayMicros + w.timeOfDay

def Wall.exactBack (w : Wall) (count : Int) : TimeUnit → Int
  | .min => w.micros - count * (60 * secondMicros)
  | .hour => w.micros - count * (3600 * secondMicros)
  | .day => w.micros - count * (86400 * secondMicros)
  | .week => w.micros - count * (604800 * secondMicros)
  | .month => w.monthsBack count
  | .year => w.monthsBack (12 * count)

namespace Date

theorem onMonth_valid {d : Date} (hd : d.Valid) (index : Int) : (d.onMonth index).Valid := by
  have hday := hd.day_pos
  have hlong := daysInMonth_bounds (yearOfMonth index) (monthOfYear index)
  refine ⟨Nat.succ_pos _, ?_, ?_, Nat.min_le_right _ _⟩
  · change (index % 12).toNat + 1 ≤ 12
    omega
  · change 1 ≤ min d.day _
    omega

theorem monthIndex_onMonth (d : Date) (index : Int) : (d.onMonth index).monthIndex = index := by
  change 12 * (index / 12) + (((index % 12).toNat + 1 : Nat) - 1 : Int) = index
  omega

theorem onMonth_monthIndex {d : Date} (hd : d.Valid) : d.onMonth d.monthIndex = d := by
  obtain ⟨hyear, hmonth⟩ := hd.yearOfMonth_monthIndex
  rw [onMonth, inMonth, hyear, hmonth, Nat.min_eq_left hd.day_le]

theorem later_eq_onMonth {d : Date} (hd : d.Valid) (years : Int) {months : Int}
    (h : months.natAbs < 12) :
    d.later years months = d.onMonth (d.monthIndex + (12 * years + months)) := by
  have hpos := hd.month_pos
  have hle := hd.month_le
  have place : ∀ {year month : Int}, 1 ≤ month → month ≤ 12 →
      12 * year + (month - 1) = d.monthIndex + (12 * years + months) →
      d.inMonth year month.toNat = d.onMonth (d.monthIndex + (12 * years + months)) := by
    intro year month h₁ h₂ he
    rw [← he, onMonth]
    congr 1
    · simp only [yearOfMonth]
      omega
    · simp only [monthOfYear]
      omega
  rw [later]
  simp only [monthIndex] at *
  split
  · exact place (by omega) (by omega) (by omega)
  · split
    · exact place (by omega) (by omega) (by omega)
    · exact place (by omega) (by omega) (by omega)

end Date

namespace Wall

theorem atDate_eq_ok_iff {d : Date} {t : Int} {v : Wall} (hd : d.Valid) (ht : 0 ≤ t ∧ t < dayMicros) :
    atDate d t = .ok v ↔ v.micros = d.dayNumber * dayMicros + t := by
  rw [atDate]
  constructor
  · intro h
    split at h
    · split at h
      · rename_i hv
        cases h
        exact ofMicros?_eq_some_iff.1 hv
      · cases h
    · cases h
  · intro h
    have hyear := v.year_bounds
    rw [(date_eq_of_micros hd ht h).1] at hyear
    have hnumber : isYearNumber d.year = true := by
      simp only [isYearNumber, Bool.and_eq_true, decide_eq_true_eq]
      omega
    rw [if_pos hnumber, ofMicros?_eq_some_iff.2 h]

theorem span_eq_ok {s : Step} {u v : Wall} (h : v.micros = u.micros + s.micros) :
    s.span = .ok s.micros := by
  have hu := And.intro u.first_le u.le_last
  have hv := And.intro v.first_le v.le_last
  rw [Step.span]
  rw [if_pos]
  simp only [firstMicros, lastMicros, Step.maxDays, dayMicros] at *
  omega

theorem plus_eq_ok_iff {w v : Wall} {s : Step} (h : s.months.natAbs < 12) :
    w.plus s = .ok v ↔ ∃ u : Wall, u.micros = w.monthsBack (-s.totalMonths) ∧
      v.micros = u.micros + s.micros := by
  have hlater := Date.later_eq_onMonth w.date_valid s.years h
  rw [← Step.totalMonths] at hlater
  have hplace : ∀ u : Wall, atDate (w.date.later s.years s.months) w.timeOfDay = .ok u ↔
      u.micros = w.monthsBack (-s.totalMonths) := by
    intro u
    rw [hlater, monthsBack, Int.sub_neg]
    exact atDate_eq_ok_iff (Date.onMonth_valid w.date_valid _) w.timeOfDay_bounds
  rw [plus, Except.bind_eq_ok_iff]
  constructor
  · rintro ⟨u, hu, hmove⟩
    obtain ⟨span, hspan, hmove⟩ := Except.bind_eq_ok_iff.1 hmove
    have hs : span = s.micros := by
      rw [Step.span] at hspan
      split at hspan
      · cases hspan
        rfl
      · cases hspan
    rw [hs] at hmove
    exact ⟨u, (hplace u).1 hu, move_eq_ok_iff.1 hmove⟩
  · rintro ⟨u, hu, hv⟩
    exact ⟨u, (hplace u).2 hu, Except.bind_eq_ok_iff.2 ⟨_, span_eq_ok hv, move_eq_ok_iff.2 hv⟩⟩

theorem monthsBack_zero (w : Wall) : w.monthsBack 0 = w.micros := by
  rw [monthsBack, Int.sub_zero, Date.onMonth_monthIndex w.date_valid, dayNumber_date, ← micros_eq]

theorem micros_eq_monthsBack_iff {w v : Wall} {months : Int} : v.micros = w.monthsBack months ↔
    v.date.monthIndex = w.date.monthIndex - months ∧
      v.date.day = min w.date.day (daysInMonth v.date.year v.date.month) ∧
        v.timeOfDay = w.timeOfDay := by
  have hvalid := Date.onMonth_valid w.date_valid (w.date.monthIndex - months)
  constructor
  · intro h
    obtain ⟨hdate, htime⟩ := date_eq_of_micros hvalid w.timeOfDay_bounds h
    rw [hdate]
    exact ⟨Date.monthIndex_onMonth _ _, rfl, htime⟩
  · rintro ⟨hindex, hday, htime⟩
    obtain ⟨hyear, hmonth⟩ := v.date_valid.yearOfMonth_monthIndex
    rw [hindex] at hyear hmonth
    have hdate : w.date.onMonth (w.date.monthIndex - months) = v.date := by
      rw [Date.onMonth, hyear, hmonth, Date.inMonth, ← hday]
    rw [monthsBack, hdate, dayNumber_date, ← htime, ← micros_eq]

theorem exactBack_eq (w : Wall) (count : Int) (unit : TimeUnit) :
    w.exactBack count unit = w.monthsBack (count * monthsOf unit) - count * microsOf unit := by
  cases unit <;> simp only [exactBack, monthsOf, microsOf, Int.mul_zero, Int.mul_one,
    monthsBack_zero, Int.sub_zero, Int.mul_comm 12] <;> rfl

theorem date_of_exactBack {w v : Wall} {count : Int} {unit : TimeUnit} (hunit : 0 < monthsOf unit)
    (h : v.micros = w.exactBack count unit) :
    v.date.monthIndex = w.date.monthIndex - count * monthsOf unit ∧
      v.date.day = min w.date.day (daysInMonth v.date.year v.date.month) ∧
        v.timeOfDay = w.timeOfDay := by
  apply micros_eq_monthsBack_iff.1
  rcases monthsOf_or_microsOf unit with hm | hm
  · omega
  · rw [h, exactBack_eq, hm, Int.mul_zero, Int.sub_zero]

theorem natAbs_lt_of_exactBack {w v : Wall} {count : Int} {unit : TimeUnit}
    (h : v.micros = w.exactBack count unit) : count.natAbs < Step.infiniteFrom := by
  have hlarge : 10 ^ 20 ≤ Step.infiniteFrom := by decide +kernel
  have hw := And.intro w.first_le w.le_last
  have hv := And.intro v.first_le v.le_last
  have hmonths : ∀ months, v.micros = w.monthsBack months → months.natAbs < 10 ^ 20 := by
    intro months hm
    have hvalid := Date.onMonth_valid w.date_valid (w.date.monthIndex - months)
    have hindex := Date.monthIndex_onMonth w.date (w.date.monthIndex - months)
    rw [← (date_eq_of_micros hvalid w.timeOfDay_bounds hm).1] at hindex
    have hyear := w.year_bounds
    have hyear' := v.year_bounds
    have hmonth := w.date_valid.month_le
    have hmonth' := v.date_valid.month_le
    simp only [Date.monthIndex] at hindex
    omega
  refine Nat.lt_of_lt_of_le ?_ hlarge
  simp only [firstMicros, lastMicros] at *
  cases unit with
  | min | hour | day | week =>
    simp only [exactBack, secondMicros] at h
    omega
  | month => exact hmonths _ h
  | year =>
    have := hmonths _ h
    omega

theorem plus_opposite_eq_ok_iff {w v : Wall} {count : Int} {unit : TimeUnit} {s : Step}
    (hs : (Step.ofCount count unit).carried = .ok s) :
    w.plus s.opposite = .ok v ↔ ∃ u : Wall, u.micros = w.monthsBack (count * monthsOf unit) ∧
      v.micros = u.micros - count * microsOf unit := by
  obtain ⟨hm, hspan, hlt⟩ := Step.carried_eq_ok hs
  have hopposite : s.opposite.months.natAbs < 12 := by
    rwa [Step.opposite, Int.natAbs_neg]
  rw [plus_eq_ok_iff hopposite, Step.totalMonths_opposite, Step.micros_opposite, hm, hspan,
    Int.neg_neg, Step.totalMonths_ofCount, Step.micros_ofCount]
  rfl

theorem carried_plus_eq_ok_iff {w v : Wall} {count : Int} {unit : TimeUnit} :
    ((Step.ofCount count unit).carried >>= fun s => w.plus s.opposite) = .ok v ↔
      v.micros = w.exactBack count unit := by
  rw [Except.bind_eq_ok_iff, exactBack_eq]
  constructor
  · rintro ⟨s, hs, hplus⟩
    obtain ⟨u, hu, hv⟩ := (plus_opposite_eq_ok_iff hs).1 hplus
    rwa [hu] at hv
  · intro h
    obtain ⟨s, hs⟩ := Step.carried_ofCount_of_lt
      (natAbs_lt_of_exactBack (h.trans (exactBack_eq w count unit).symm)) unit
    refine ⟨s, hs, (plus_opposite_eq_ok_iff hs).2 ?_⟩
    -- A unit moves the date or the time, never both, so the time in between is one of the two ends.
    rcases monthsOf_or_microsOf unit with hm | hm
    · rw [hm, Int.mul_zero, monthsBack_zero] at h ⊢
      exact ⟨w, rfl, h⟩
    · rw [hm, Int.mul_zero] at h ⊢
      rw [Int.sub_zero] at h
      exact ⟨v, h, (Int.sub_zero _).symm⟩

theorem exactBack_zero (w : Wall) (unit : TimeUnit) : w.exactBack 0 unit = w.micros := by
  rw [exactBack_eq, Int.zero_mul, Int.zero_mul, monthsBack_zero, Int.sub_zero]

theorem monthsBack_lt (w : Wall) {m n : Int} (h : m < n) :
    w.monthsBack n + dayMicros ≤ w.monthsBack m := by
  have hday : (w.date.onMonth (w.date.monthIndex - n)).dayNumber <
      (w.date.onMonth (w.date.monthIndex - m)).dayNumber := by
    apply Date.dayNumber_lt_of_monthIndex_lt
    · exact Date.onMonth_valid w.date_valid _
    · exact Date.onMonth_valid w.date_valid _
    · rw [Date.monthIndex_onMonth, Date.monthIndex_onMonth]
      omega
  simp only [monthsBack, dayMicros]
  omega

theorem exactBack_add_day_le (w : Wall) {m n : Int} (h : m < n) {unit : TimeUnit}
    (hu : unit.isElapsed = false) : w.exactBack n unit + dayMicros ≤ w.exactBack m unit := by
  cases unit with
  | min | hour => cases hu
  | day | week =>
    simp only [exactBack, secondMicros, dayMicros]
    omega
  | month => exact w.monthsBack_lt h
  | year => exact w.monthsBack_lt (by omega)

theorem exactBack_add_minute_le (w : Wall) {m n : Int} (h : m < n) (unit : TimeUnit) :
    w.exactBack n unit + 60 * secondMicros ≤ w.exactBack m unit := by
  cases hu : unit.isElapsed with
  | false =>
    have := w.exactBack_add_day_le h hu
    simp only [dayMicros, secondMicros] at *
    omega
  | true =>
    cases unit with
    | min | hour =>
      simp only [exactBack, secondMicros]
      omega
    | day | week | month | year => cases hu

theorem exactBack_lt (w : Wall) {m n : Int} (h : m < n) (unit : TimeUnit) :
    w.exactBack n unit < w.exactBack m unit := by
  have := w.exactBack_add_minute_le h unit
  simp only [secondMicros] at this
  omega

theorem exactBack_le (w : Wall) {count : Int} (unit : TimeUnit) (h : 0 ≤ count) :
    w.exactBack count unit ≤ w.micros := by
  rcases Int.lt_or_eq_of_le h with hlt | rfl
  · have := w.exactBack_lt hlt unit
    rw [w.exactBack_zero] at this
    omega
  · exact Int.le_of_eq (w.exactBack_zero unit)

theorem lt_exactBack (w : Wall) {count : Int} (unit : TimeUnit) (h : count < 0) :
    w.micros < w.exactBack count unit := by
  have := w.exactBack_lt h unit
  rwa [w.exactBack_zero] at this

end Wall

end TimeWindow.Calendar
