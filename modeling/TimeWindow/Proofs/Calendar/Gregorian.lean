import Mathlib.Tactic.ByContra
import Mathlib.Tactic.IntervalCases
import TimeWindow.Calendar.Date

/-!
The count of days and the dates of the calendar are the same thing: every day has one valid date and
every valid date is that of one day. In the order of the months, which are twelve to a year, the
first day of a month follows the last day of the month before it.
-/

namespace TimeWindow.Calendar.Date

structure Valid (d : Date) : Prop where
  month_pos : 1 ≤ d.month
  month_le : d.month ≤ 12
  day_pos : 1 ≤ d.day
  day_le : d.day ≤ daysInMonth d.year d.month

theorem isLeap_iff (year : Int) :
    isLeap year = true ↔ year % 4 = 0 ∧ (year % 100 ≠ 0 ∨ year % 400 = 0) := by
  simp [isLeap]

theorem daysBefore_mono {a b : Int} (h : a ≤ b) : daysBefore a ≤ daysBefore b := by
  simp only [daysBefore]
  omega

theorem daysBefore_succ (year : Int) :
    daysBefore (year + 1) = daysBefore year + 337 + daysInMonth (year + 1) 2 := by
  simp only [daysBefore, daysInMonth, if_true]
  by_cases h : isLeap (year + 1) = true
  · have hl := (isLeap_iff _).1 h
    rw [if_pos h]
    omega
  · have hl := mt (isLeap_iff _).2 h
    rw [if_neg h]
    omega

theorem marchYear_eq {n year : Int} (low : daysBefore year ≤ n) (high : n < daysBefore (year + 1)) :
    marchYear n = year := by
  have hlow := daysBefore_marchYear_le n
  have hhigh := lt_daysBefore_marchYear n
  rcases Int.lt_trichotomy (marchYear n) year with h | h | h
  · have := daysBefore_mono (show marchYear n + 1 ≤ year by omega)
    omega
  · exact h
  · have := daysBefore_mono (show year + 1 ≤ marchYear n by omega)
    omega

theorem dayOfMarchYear_lt (n : Int) :
    dayOfMarchYear n < 337 + daysInMonth (marchYear n + 1) 2 := by
  have h := lt_daysBefore_marchYear n
  rw [daysBefore_succ] at h
  simp only [dayOfMarchYear]
  omega

theorem daysInMonth_two_le (year : Int) : daysInMonth year 2 ≤ 29 := by
  simp only [daysInMonth, if_true]
  split <;> omega

theorem marchMonth_bounds (n : Int) : 0 ≤ marchMonth n ∧ marchMonth n ≤ 11 := by
  have low := dayOfMarchYear_nonneg n
  have high := dayOfMarchYear_lt n
  have := daysInMonth_two_le (marchYear n + 1)
  simp only [marchMonth]
  omega

theorem daysInMonth_eq (year : Int) {month : Nat} (h : 1 ≤ month) (h' : month ≤ 12)
    (hne : month ≠ 2) :
    (daysInMonth year month : Int) =
      let m : Int := if month ≤ 2 then month + 9 else month - 3
      (153 * (m + 1) + 2) / 5 - (153 * m + 2) / 5 := by
  interval_cases month <;> first | exact absurd rfl hne | rfl

theorem daysInMonth_bounds (year : Int) (month : Nat) :
    28 ≤ daysInMonth year month ∧ daysInMonth year month ≤ 31 := by
  rw [daysInMonth]
  split
  · split <;> omega
  · split <;> omega

theorem dayNumber_of_le_two {d : Date} (h : d.month ≤ 2) : d.dayNumber =
    daysBefore (d.year - 1) + (153 * (d.month + 9) + 2) / 5 + d.day - 1 - origin := by
  simp [dayNumber, h]

theorem dayNumber_of_two_lt {d : Date} (h : 2 < d.month) : d.dayNumber =
    daysBefore d.year + (153 * ((d.month : Int) - 3) + 2) / 5 + d.day - 1 - origin := by
  simp [dayNumber, Nat.not_le.2 h]

theorem ofDayNumber_of_early {n : Int} (h : marchMonth (n + origin) < 10) : ofDayNumber n =
    ⟨marchYear (n + origin), (marchMonth (n + origin) + 3).toNat,
      (dayOfMonth (n + origin) + 1).toNat⟩ := by
  simp [ofDayNumber, h]

theorem ofDayNumber_of_late {n : Int} (h : 10 ≤ marchMonth (n + origin)) : ofDayNumber n =
    ⟨marchYear (n + origin) + 1, (marchMonth (n + origin) - 9).toNat,
      (dayOfMonth (n + origin) + 1).toNat⟩ := by
  simp [ofDayNumber, Int.not_lt.2 h]

theorem dayNumber_ofDayNumber (n : Int) : (ofDayNumber n).dayNumber = n := by
  have hm := marchMonth_bounds (n + origin)
  have hd := dayOfMonth_nonneg (n + origin)
  by_cases h : marchMonth (n + origin) < 10
  · rw [ofDayNumber_of_early h, dayNumber_of_two_lt (by dsimp only; omega)]
    simp only [dayOfMonth, dayOfMarchYear] at *
    omega
  · have h := Int.not_lt.1 h
    rw [ofDayNumber_of_late h, dayNumber_of_le_two (by dsimp only; omega)]
    dsimp only
    rw [Int.add_sub_cancel]
    simp only [dayOfMonth, dayOfMarchYear] at *
    omega

theorem dayOfMonth_lt (n : Int) :
    dayOfMonth n < (153 * (marchMonth n + 1) + 2) / 5 - (153 * marchMonth n + 2) / 5 := by
  have := dayOfMarchYear_nonneg n
  rw [dayOfMonth]
  simp only [marchMonth] at *
  omega

theorem ofDayNumber_valid (n : Int) : (ofDayNumber n).Valid := by
  have hm := marchMonth_bounds (n + origin)
  have hd := dayOfMonth_nonneg (n + origin)
  by_cases h : marchMonth (n + origin) < 10
  · have hlt := dayOfMonth_lt (n + origin)
    rw [ofDayNumber_of_early h]
    refine ⟨by dsimp only; omega, by dsimp only; omega, by dsimp only; omega, ?_⟩
    have hmonth : ((marchMonth (n + origin) + 3).toNat : Int) - 3 = marchMonth (n + origin) := by
      omega
    have hlen := daysInMonth_eq (marchYear (n + origin))
      (show 1 ≤ (marchMonth (n + origin) + 3).toNat by omega) (by omega) (by omega)
    dsimp only at hlen ⊢
    rw [if_neg (by omega), hmonth] at hlen
    omega
  · have h := Int.not_lt.1 h
    rw [ofDayNumber_of_late h]
    refine ⟨by dsimp only; omega, by dsimp only; omega, by dsimp only; omega, ?_⟩
    dsimp only
    by_cases hfeb : marchMonth (n + origin) = 11
    · have hlt := dayOfMarchYear_lt (n + origin)
      rw [hfeb]
      change (dayOfMonth (n + origin) + 1).toNat ≤ daysInMonth (marchYear (n + origin) + 1) 2
      simp only [dayOfMonth, hfeb] at *
      omega
    · have hjan : marchMonth (n + origin) = 10 := by omega
      have hlt := dayOfMonth_lt (n + origin)
      rw [hjan] at hlt ⊢
      change (dayOfMonth (n + origin) + 1).toNat ≤ 31
      omega

theorem Valid.marchYear_early {d : Date} (hd : d.Valid) (h : d.month ≤ 2) :
    marchYear (d.dayNumber + origin) = d.year - 1 ∧
      dayOfMarchYear (d.dayNumber + origin) = (153 * ((d.month : Int) + 9) + 2) / 5 + d.day - 1 := by
  have hpos := hd.month_pos
  have hday := hd.day_pos
  have hle := hd.day_le
  have hsucc := daysBefore_succ (d.year - 1)
  rw [Int.sub_add_cancel] at hsucc
  have hnum := dayNumber_of_le_two h
  have hfeb := daysInMonth_bounds d.year 2
  have hlast : (d.month : Int) = 1 ∧ (d.day : Int) ≤ 31 ∨
      (d.month : Int) = 2 ∧ (d.day : Int) ≤ daysInMonth d.year 2 := by
    rcases (show d.month = 1 ∨ d.month = 2 by omega) with hm | hm
    · rw [hm] at hle
      have := daysInMonth_bounds d.year 1
      exact .inl ⟨by omega, by omega⟩
    · rw [hm] at hle
      exact .inr ⟨by omega, by omega⟩
  have hyear : marchYear (d.dayNumber + origin) = d.year - 1 := by
    apply marchYear_eq
    · omega
    · rw [Int.sub_add_cancel]
      omega
  refine ⟨hyear, ?_⟩
  rw [dayOfMarchYear, hyear]
  omega

theorem Valid.marchYear_late {d : Date} (hd : d.Valid) (h : 2 < d.month) :
    marchYear (d.dayNumber + origin) = d.year ∧
      dayOfMarchYear (d.dayNumber + origin) = (153 * ((d.month : Int) - 3) + 2) / 5 + d.day - 1 := by
  have hmonth := hd.month_le
  have hday := hd.day_pos
  have hle := hd.day_le
  have hsucc := daysBefore_succ d.year
  have hnum := dayNumber_of_two_lt h
  have hlen := daysInMonth_eq d.year hd.month_pos hmonth (by omega)
  dsimp only at hlen
  rw [if_neg (by omega)] at hlen
  have hyear : marchYear (d.dayNumber + origin) = d.year := by
    apply marchYear_eq
    · omega
    · omega
  refine ⟨hyear, ?_⟩
  rw [dayOfMarchYear, hyear]
  omega

theorem ofDayNumber_dayNumber {d : Date} (hd : d.Valid) : ofDayNumber d.dayNumber = d := by
  have hpos := hd.month_pos
  have hmonth := hd.month_le
  have hday := hd.day_pos
  have hle := hd.day_le
  by_cases h : d.month ≤ 2
  · obtain ⟨hyear, hdays⟩ := hd.marchYear_early h
    have hlong := daysInMonth_bounds d.year d.month
    have hmarch : marchMonth (d.dayNumber + origin) = d.month + 9 := by
      have hjan : d.month = 1 → daysInMonth d.year d.month = 31 := by
        intro hm
        rw [hm]
        rfl
      have hfeb : d.month = 2 → daysInMonth d.year d.month ≤ 29 := by
        intro hm
        rw [hm]
        exact daysInMonth_two_le d.year
      simp only [marchMonth]
      omega
    have hm : ((d.month : Int) + 9 - 9).toNat = d.month := by omega
    have hn : ((153 * ((d.month : Int) + 9) + 2) / 5 + d.day - 1 -
        (153 * ((d.month : Int) + 9) + 2) / 5 + 1).toNat = d.day := by omega
    rw [ofDayNumber_of_late (by omega), dayOfMonth, hyear, hdays, hmarch, Int.sub_add_cancel, hm, hn]
  · have h := Nat.not_le.1 h
    obtain ⟨hyear, hdays⟩ := hd.marchYear_late h
    have hlen := daysInMonth_eq d.year hpos hmonth (by omega)
    dsimp only at hlen
    rw [if_neg (by omega)] at hlen
    have hmarch : marchMonth (d.dayNumber + origin) = d.month - 3 := by
      simp only [marchMonth]
      omega
    have hm : ((d.month : Int) - 3 + 3).toNat = d.month := by omega
    have hn : ((153 * ((d.month : Int) - 3) + 2) / 5 + d.day - 1 -
        (153 * ((d.month : Int) - 3) + 2) / 5 + 1).toNat = d.day := by omega
    rw [ofDayNumber_of_early (by omega), dayOfMonth, hyear, hdays, hmarch, hm, hn]

def monthIndex (d : Date) : Int :=
  12 * d.year + ((d.month : Int) - 1)

def yearOfMonth (index : Int) : Int := index / 12

def monthOfYear (index : Int) : Nat := (index % 12).toNat + 1

def firstOfMonth (index : Int) : Int :=
  dayNumber ⟨yearOfMonth index, monthOfYear index, 1⟩

theorem yearOfMonth_index (year : Int) {month : Nat} (h : 1 ≤ month) (h' : month ≤ 12) :
    yearOfMonth (12 * year + ((month : Int) - 1)) = year ∧
      monthOfYear (12 * year + ((month : Int) - 1)) = month := by
  simp only [yearOfMonth, monthOfYear]
  omega

theorem Valid.yearOfMonth_monthIndex {d : Date} (hd : d.Valid) :
    yearOfMonth d.monthIndex = d.year ∧ monthOfYear d.monthIndex = d.month :=
  yearOfMonth_index d.year hd.month_pos hd.month_le

theorem dayNumber_first_of_month (year : Int) {month : Nat} (h : 1 ≤ month) (h' : month ≤ 12) :
    dayNumber ⟨year, month, 1⟩ = firstOfMonth (12 * year + ((month : Int) - 1)) := by
  obtain ⟨hyear, hmonth⟩ := yearOfMonth_index year h h'
  rw [firstOfMonth, hyear, hmonth]

theorem dayNumber_eq_firstOfMonth {d : Date} (hd : d.Valid) :
    d.dayNumber = firstOfMonth d.monthIndex + d.day - 1 := by
  obtain ⟨hyear, hmonth⟩ := hd.yearOfMonth_monthIndex
  rw [firstOfMonth, hyear, hmonth]
  by_cases h : d.month ≤ 2
  · have hfirst := @dayNumber_of_le_two ⟨d.year, d.month, 1⟩ h
    have hd := dayNumber_of_le_two h
    dsimp only at hfirst
    omega
  · have h := Nat.not_le.1 h
    have hfirst := @dayNumber_of_two_lt ⟨d.year, d.month, 1⟩ h
    have hd := dayNumber_of_two_lt h
    dsimp only at hfirst
    omega

theorem dayNumber_next_month (year : Int) {month : Nat} (h : 1 ≤ month) (h' : month ≤ 11) :
    dayNumber ⟨year, month + 1, 1⟩ = dayNumber ⟨year, month, 1⟩ + daysInMonth year month := by
  rcases (show month = 1 ∨ month = 2 ∨ 2 < month by omega) with rfl | rfl | hm
  · have hfirst := @dayNumber_of_le_two ⟨year, 1, 1⟩ (Nat.le_succ 1)
    have hnext := @dayNumber_of_le_two ⟨year, 2, 1⟩ (Nat.le_refl 2)
    change dayNumber ⟨year, 2, 1⟩ = _ + (31 : Int)
    dsimp only at hfirst hnext
    omega
  · have hfeb := daysBefore_succ (year - 1)
    have hfirst := @dayNumber_of_le_two ⟨year, 2, 1⟩ (Nat.le_refl 2)
    have hnext := @dayNumber_of_two_lt ⟨year, 3, 1⟩ (Nat.lt_succ_self 2)
    change dayNumber ⟨year, 3, 1⟩ = _
    rw [Int.sub_add_cancel] at hfeb
    dsimp only at hfirst hnext
    omega
  · have hlen := daysInMonth_eq year h (by omega) (by omega)
    have hfirst := @dayNumber_of_two_lt ⟨year, month, 1⟩ hm
    have hnext := @dayNumber_of_two_lt ⟨year, month + 1, 1⟩ (Nat.lt_succ_of_lt hm)
    dsimp only at hlen hfirst hnext
    rw [if_neg (by omega)] at hlen
    omega

theorem dayNumber_next_year (year : Int) :
    dayNumber ⟨year + 1, 1, 1⟩ = dayNumber ⟨year, 12, 1⟩ + daysInMonth year 12 := by
  have hfirst := @dayNumber_of_two_lt ⟨year, 12, 1⟩ (Nat.le_add_left 3 9)
  have hnext := @dayNumber_of_le_two ⟨year + 1, 1, 1⟩ (Nat.le_succ 1)
  change _ = _ + (31 : Int)
  dsimp only at hfirst hnext
  rw [Int.add_sub_cancel] at hnext
  omega

theorem firstOfMonth_succ (index : Int) : firstOfMonth (index + 1) =
    firstOfMonth index + daysInMonth (yearOfMonth index) (monthOfYear index) := by
  simp only [firstOfMonth]
  by_cases h : index % 12 = 11
  · have hyear : yearOfMonth (index + 1) = yearOfMonth index + 1 := by
      simp only [yearOfMonth]
      omega
    have hmonth : monthOfYear index = 12 := by
      simp only [monthOfYear]
      omega
    have hnext : monthOfYear (index + 1) = 1 := by
      simp only [monthOfYear]
      omega
    rw [hyear, hmonth, hnext]
    exact dayNumber_next_year _
  · have hyear : yearOfMonth (index + 1) = yearOfMonth index := by
      simp only [yearOfMonth]
      omega
    have hnext : monthOfYear (index + 1) = monthOfYear index + 1 := by
      simp only [monthOfYear]
      omega
    rw [hyear, hnext]
    exact dayNumber_next_month _ (Nat.succ_pos _) (by simp only [monthOfYear]; omega)

theorem firstOfMonth_add_le (index : Int) (n : Nat) :
    firstOfMonth index + 28 * n ≤ firstOfMonth (index + n) := by
  induction n with
  | zero => simp
  | succ n ih =>
    have hstep := firstOfMonth_succ (index + n)
    have hlong := daysInMonth_bounds (yearOfMonth (index + n)) (monthOfYear (index + n))
    rw [Int.natCast_succ, ← Int.add_assoc]
    omega

theorem firstOfMonth_mono {i j : Int} (h : i ≤ j) : firstOfMonth i + 28 * (j - i) ≤ firstOfMonth j := by
  have hle := firstOfMonth_add_le i (j - i).toNat
  have hcast : ((j - i).toNat : Int) = j - i := Int.toNat_of_nonneg (by omega)
  rw [hcast] at hle
  have hj : i + (j - i) = j := by omega
  rwa [hj] at hle

theorem dayNumber_lt_of_monthIndex_lt {d e : Date} (hd : d.Valid) (he : e.Valid)
    (h : d.monthIndex < e.monthIndex) : d.dayNumber < e.dayNumber := by
  obtain ⟨hyear, hmonth⟩ := hd.yearOfMonth_monthIndex
  have hnext := firstOfMonth_succ d.monthIndex
  have hmono := firstOfMonth_mono (show d.monthIndex + 1 ≤ e.monthIndex by omega)
  have hday := hd.day_le
  have hpos := he.day_pos
  rw [hyear, hmonth] at hnext
  rw [dayNumber_eq_firstOfMonth hd, dayNumber_eq_firstOfMonth he]
  omega

theorem dayNumber_first_of_year (year : Int) :
    dayNumber ⟨year, 1, 1⟩ = firstOfMonth (12 * year) := by
  rw [dayNumber_first_of_month year (Nat.le_refl 1) (by decide)]
  congr 1
  omega

theorem le_year_iff {d : Date} (hd : d.Valid) (year : Int) :
    year ≤ d.year ↔ dayNumber ⟨year, 1, 1⟩ ≤ d.dayNumber := by
  have hmonth := hd.month_pos
  have hmonth' := hd.month_le
  have hday := hd.day_pos
  have hday' := hd.day_le
  have hnext := firstOfMonth_succ d.monthIndex
  have hplace := hd.yearOfMonth_monthIndex
  rw [hplace.1, hplace.2] at hnext
  rw [dayNumber_first_of_year, dayNumber_eq_firstOfMonth hd]
  simp only [monthIndex] at *
  constructor
  · intro h
    have := firstOfMonth_mono (show 12 * year ≤ 12 * d.year + ((d.month : Int) - 1) by omega)
    omega
  · intro h
    by_contra hlt
    have := firstOfMonth_mono (show 12 * d.year + ((d.month : Int) - 1) + 1 ≤ 12 * year by omega)
    omega

theorem le_year_ofDayNumber_iff (n year : Int) :
    year ≤ (ofDayNumber n).year ↔ dayNumber ⟨year, 1, 1⟩ ≤ n := by
  rw [le_year_iff (ofDayNumber_valid n), dayNumber_ofDayNumber]

end TimeWindow.Calendar.Date
