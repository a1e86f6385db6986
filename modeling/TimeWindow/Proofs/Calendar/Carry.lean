import TimeWindow.Calendar.Shift
import TimeWindow.Proofs.Failing

/-!
Steps with their parts carried. Carrying keeps what a step comes to, in months and in microseconds,
and leaves less than a year of months. It fails only for a count so large that no wall time is left
after it, whatever the unit.
-/

namespace TimeWindow.Calendar

def monthsOf : TimeUnit → Int
  | .month => 1
  | .year => 12
  | _ => 0

def microsOf : TimeUnit → Int
  | .min => 60000000
  | .hour => 3600000000
  | .day => 86400000000
  | .week => 604800000000
  | _ => 0

theorem monthsOf_or_microsOf (unit : TimeUnit) : monthsOf unit = 0 ∨ microsOf unit = 0 := by
  cases unit with
  | min | hour | day | week => exact .inl rfl
  | month | year => exact .inr rfl

namespace Step

def totalMonths (s : Step) : Int :=
  12 * s.years + s.months

theorem totalMonths_opposite (s : Step) : s.opposite.totalMonths = -s.totalMonths := by
  simp only [totalMonths, opposite]
  omega

theorem micros_opposite (s : Step) : s.opposite.micros = -s.micros := by
  simp only [micros, opposite, dayMicros, secondMicros]
  omega

theorem totalMonths_ofCount (count : Int) (unit : TimeUnit) :
    (ofCount count unit).totalMonths = count * monthsOf unit := by
  cases unit <;> simp only [ofCount, totalMonths, monthsOf] <;> omega

theorem micros_ofCount (count : Int) (unit : TimeUnit) :
    (ofCount count unit).micros = count * microsOf unit := by
  cases unit <;> simp only [ofCount, micros, microsOf, dayMicros, secondMicros] <;> omega

theorem carry_eq_ok {base : Nat} {n q r : Int} (hb : 0 < base) (h : carry base n = .ok (q, r)) :
    q * base + r = n ∧ r.natAbs < base := by
  rw [carry] at h
  split at h
  · rename_i hsmall
    cases h
    exact ⟨by omega, hsmall⟩
  · split at h
    · cases h
      refine ⟨Int.tdiv_mul_add_tmod n base, ?_⟩
      rw [Int.natAbs_tmod, Int.natAbs_natCast]
      exact Nat.mod_lt _ hb
    · cases h

theorem carry_of_lt (base : Nat) {n : Int} (h : n.natAbs < infiniteFrom) :
    ∃ q r, carry base n = .ok (q, r) ∧ q.natAbs ≤ n.natAbs := by
  rw [carry]
  by_cases hsmall : n.natAbs < base
  · rw [if_pos hsmall]
    exact ⟨0, n, rfl, Nat.zero_le _⟩
  · rw [if_neg hsmall, if_pos h]
    exact ⟨_, _, rfl, Int.natAbs_tdiv_le_natAbs n base⟩

theorem carried_eq_ok {s t : Step} (h : s.carried = .ok t) :
    t.totalMonths = s.totalMonths ∧ t.micros = s.micros ∧ t.months.natAbs < 12 := by
  obtain ⟨⟨hours, minutes⟩, h₁, h⟩ := Except.bind_eq_ok_iff.1 h
  obtain ⟨⟨days, hours'⟩, h₂, h⟩ := Except.bind_eq_ok_iff.1 h
  obtain ⟨⟨years, months⟩, h₃, h⟩ := Except.bind_eq_ok_iff.1 h
  cases h
  obtain ⟨e₁, -⟩ := carry_eq_ok (by decide) h₁
  obtain ⟨e₂, -⟩ := carry_eq_ok (by decide) h₂
  obtain ⟨e₃, hlt⟩ := carry_eq_ok (by decide) h₃
  refine ⟨?_, ?_, hlt⟩
  · simp only [totalMonths]
    omega
  · simp only [micros, dayMicros, secondMicros]
    omega

theorem carried_ofCount_of_lt {count : Int} (h : count.natAbs < infiniteFrom) (unit : TimeUnit) :
    ∃ t, (ofCount count unit).carried = .ok t := by
  have hsum : (ofCount count unit).hours.natAbs + (ofCount count unit).minutes.natAbs ≤
      count.natAbs := by
    cases unit <;> simp [ofCount]
  have hmonths : (ofCount count unit).months.natAbs ≤ count.natAbs := by
    cases unit <;> simp [ofCount]
  obtain ⟨hours, minutes, h₁, hq⟩ := carry_of_lt 60 (n := (ofCount count unit).minutes) (by omega)
  obtain ⟨days, hours', h₂, -⟩ := carry_of_lt 24 (n := (ofCount count unit).hours + hours) (by omega)
  obtain ⟨years, months, h₃, -⟩ := carry_of_lt 12 (n := (ofCount count unit).months) (by omega)
  exact ⟨_, Except.bind_eq_ok_iff.2 ⟨_, h₁, Except.bind_eq_ok_iff.2 ⟨_, h₂,
    Except.bind_eq_ok_iff.2 ⟨_, h₃, rfl⟩⟩⟩⟩

end Step

end TimeWindow.Calendar
