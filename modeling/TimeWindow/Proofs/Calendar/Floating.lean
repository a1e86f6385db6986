import TimeWindow.Proofs.Calendar.Back
import TimeWindow.Proofs.Calendar.Refusal
import TimeWindow.Proofs.Number.Nearest

/-!
Floating times against the same times of universal time. A floating time is counted in seconds that
are rounded, and their thousandfold is rounded once more, so its milliseconds with all that follows
the point are only near to the exact ones. What follows the point is then dropped: that leads down
from 1970 on, as in universal time, and up before.
-/

namespace TimeWindow.Calendar.Moment

open Number (Binary)

def partOfSecond (w : Wall) : Binary :=
  .round (w.micros % secondMicros) secondMicros.toNat

def roundedSeconds (w : Wall) : Binary :=
  (Binary.ofInt (w.micros / secondMicros)).add (partOfSecond w)

def roundedMillis (w : Wall) : Binary :=
  (roundedSeconds w).mul (.ofInt 1000)

theorem floatingMillis_eq (w : Wall) : floatingMillis w = (roundedMillis w).truncate := rfl

variable {w : Wall} {bits : Nat}

theorem epochMillis_floating_eq_ok_iff {ms : Int} : epochMillis ⟨w, false, .floating⟩ = .ok ms ↔
    firstMicros + dayMicros ≤ w.micros ∧ ms = floatingMillis w := by
  change (floatingNeighbour w false >>= fun _ => .ok (floatingMillis w)) = _ ↔ _
  have herror := @floatingNeighbour_eq_error_iff w false
  simp only [Bool.false_eq_true, if_false] at herror
  cases hneighbour : floatingNeighbour w false with
  | error e =>
    obtain ⟨hearly, -⟩ := herror.1 hneighbour
    refine iff_of_false (fun h => ?_) fun h => ?_
    · cases h
    · omega
  | ok _ =>
    have hlate : firstMicros + dayMicros ≤ w.micros := by
      by_contra hearly
      cases hneighbour.symm.trans (herror.2 ⟨Int.not_le.1 hearly, rfl⟩)
    rw [and_iff_right hlate, eq_comm (a := ms)]
    exact iff_of_eq (Except.ok.injEq _ _)

theorem natAbs_micros_lt (w : Wall) : w.micros.natAbs < 2 ^ 38 * 10 ^ 6 := by
  have hfirst := w.first_le
  have hlast := w.le_last
  simp only [firstMicros, lastMicros] at *
  omega

theorem value_whole (w : Wall) :
    (Binary.ofInt (w.micros / secondMicros)).value = (w.micros / secondMicros : Int) := by
  have hmicros := natAbs_micros_lt w
  have hsmall : |w.micros / secondMicros| < 2 ^ 52 := by
    rw [abs_lt]
    simp only [secondMicros]
    omega
  exact Binary.value_ofInt (by exact_mod_cast hsmall)

theorem value_thousand : (Binary.ofInt 1000).value = 1000 :=
  Binary.value_ofInt (by norm_num)

theorem cast_secondMicros : ((secondMicros.toNat : Nat) : ℚ) = 10 ^ 6 := by
  change ((1000000 : Nat) : ℚ) = 10 ^ 6
  norm_num

theorem part_bounds (w : Wall) : 0 ≤ ((w.micros % secondMicros : Int) : ℚ) ∧
    ((w.micros % secondMicros : Int) : ℚ) ≤ 999999 := by
  have hlow : 0 ≤ w.micros % secondMicros := Int.emod_nonneg _ (by decide)
  have hhigh : w.micros % secondMicros ≤ 999999 := by
    simp only [secondMicros]
    omega
  exact ⟨by exact_mod_cast hlow, by exact_mod_cast hhigh⟩

theorem abs_value_part_sub_le (w : Wall) :
    |(partOfSecond w).value - (w.micros % secondMicros : Int) / 10 ^ 6| ≤ 1 / 2 ^ 54 := by
  obtain ⟨hlow, hhigh⟩ := part_bounds w
  have hsmall : |((w.micros % secondMicros : Int) : ℚ) / (secondMicros.toNat : Nat)| < 2 ^ 0 := by
    rw [cast_secondMicros, abs_of_nonneg (by positivity)]
    linarith
  have hround := Binary.abs_value_round_sub_le (by decide) hsmall
  rwa [cast_secondMicros, pow_zero] at hround

theorem seconds_split (w : Wall) : ((w.micros / secondMicros : Int) : ℚ) +
    (w.micros % secondMicros : Int) / 10 ^ 6 = w.micros / 10 ^ 6 := by
  have hsplit : (w.micros : ℚ) =
      secondMicros * (w.micros / secondMicros : Int) + (w.micros % secondMicros : Int) := by
    exact_mod_cast (Int.mul_ediv_add_emod w.micros secondMicros).symm
  rw [hsplit]
  norm_num [secondMicros]
  ring

theorem abs_sum_sub_le (w : Wall) :
    |(Binary.ofInt (w.micros / secondMicros)).value + (partOfSecond w).value - w.micros / 10 ^ 6| ≤
      1 / 2 ^ 54 := by
  rw [value_whole, ← seconds_split, add_sub_add_left_eq_sub]
  exact abs_value_part_sub_le w

theorem abs_micros_le (h : w.micros.natAbs < 2 ^ bits * 10 ^ 6) :
    |(w.micros : ℚ)| ≤ 2 ^ bits * 10 ^ 6 - 1 := by
  have hlt : |w.micros| < 2 ^ bits * 10 ^ 6 := by
    rw [Int.abs_eq_natAbs]
    exact_mod_cast h
  have hle := (Int.cast_le (R := ℚ)).2 (Int.le_sub_one_of_lt hlt)
  push_cast at hle
  exact hle

theorem abs_sum_lt (h : w.micros.natAbs < 2 ^ bits * 10 ^ 6) :
    |(Binary.ofInt (w.micros / secondMicros)).value + (partOfSecond w).value| < 2 ^ bits := by
  have hsum := abs_le.1 (abs_sum_sub_le w)
  have hmicros := abs_le.1 (abs_micros_le h)
  rw [abs_lt]
  constructor <;> linarith

theorem abs_roundedSeconds_sub_le (h : w.micros.natAbs < 2 ^ bits * 10 ^ 6) :
    |(roundedSeconds w).value - w.micros / 10 ^ 6| ≤ (2 ^ bits + 1) / 2 ^ 54 := by
  have hround := Binary.abs_value_add_sub_le (abs_sum_lt h)
  have htriangle := abs_sub_le (roundedSeconds w).value
    ((Binary.ofInt (w.micros / secondMicros)).value + (partOfSecond w).value) (w.micros / 10 ^ 6)
  calc |(roundedSeconds w).value - w.micros / 10 ^ 6|
      ≤ 2 ^ bits / 2 ^ 54 + 1 / 2 ^ 54 := htriangle.trans (add_le_add hround (abs_sum_sub_le w))
    _ = (2 ^ bits + 1) / 2 ^ 54 := by ring

theorem abs_thousandfold_sub_le (h : w.micros.natAbs < 2 ^ bits * 10 ^ 6) :
    |(roundedSeconds w).value * (Binary.ofInt 1000).value - w.micros / 10 ^ 3| ≤
      (2 ^ bits + 1) / 2 ^ 54 * 1000 := by
  have hseconds := mul_le_mul_of_nonneg_right (abs_roundedSeconds_sub_le h)
    (by norm_num : (0 : ℚ) ≤ 1000)
  have hscale : (roundedSeconds w).value * 1000 - w.micros / 10 ^ 3 =
      ((roundedSeconds w).value - w.micros / 10 ^ 6) * 1000 := by ring
  rwa [value_thousand, hscale, abs_mul, abs_of_pos (by norm_num : (0 : ℚ) < 1000)]

theorem abs_thousandfold_lt (h : w.micros.natAbs < 2 ^ bits * 10 ^ 6) :
    |(roundedSeconds w).value * (Binary.ofInt 1000).value| < 2 ^ (bits + 10) := by
  have hone : (1 : ℚ) ≤ 2 ^ bits := one_le_pow₀ one_le_two
  have hnear := abs_le.1 (abs_thousandfold_sub_le h)
  have hmicros := abs_le.1 (abs_micros_le h)
  rw [abs_lt, pow_add]
  constructor <;> linarith

theorem abs_roundedMillis_sub_le (h : w.micros.natAbs < 2 ^ bits * 10 ^ 6) :
    |(roundedMillis w).value - w.micros / 10 ^ 3| ≤ (2024 * 2 ^ bits + 1000) / 2 ^ 54 := by
  have hround := Binary.abs_value_mul_sub_le (abs_thousandfold_lt h)
  have htriangle := abs_sub_le (roundedMillis w).value
    ((roundedSeconds w).value * (Binary.ofInt 1000).value) (w.micros / 10 ^ 3)
  calc |(roundedMillis w).value - w.micros / 10 ^ 3|
      ≤ 2 ^ (bits + 10) / 2 ^ 54 + (2 ^ bits + 1) / 2 ^ 54 * 1000 :=
        htriangle.trans (add_le_add hround (abs_thousandfold_sub_le h))
    _ = (2024 * 2 ^ bits + 1000) / 2 ^ 54 := by ring

theorem roundedMillis_nonneg (h : 0 ≤ w.micros) : 0 ≤ (roundedMillis w).value := by
  have hwhole : 0 ≤ ((w.micros / secondMicros : Int) : ℚ) := by
    exact_mod_cast Int.ediv_nonneg h (by decide)
  have hpart : 0 ≤ (partOfSecond w).value := by
    apply Binary.value_round_nonneg (by decide)
    rw [cast_secondMicros]
    exact div_nonneg (part_bounds w).1 (by positivity)
  have hseconds : 0 ≤ (roundedSeconds w).value := by
    apply Binary.value_add_nonneg
    rw [value_whole]
    exact add_nonneg hwhole hpart
  apply Binary.value_mul_nonneg
  rw [value_thousand]
  exact mul_nonneg hseconds (by norm_num)

theorem roundedMillis_nonpos (h : w.micros < 0) : (roundedMillis w).value ≤ 0 := by
  have hmicros : (w.micros : ℚ) ≤ -1 := by
    exact_mod_cast (show w.micros ≤ -1 by omega)
  have hsum := abs_le.1 (abs_sum_sub_le w)
  have hseconds : (roundedSeconds w).value ≤ 0 := by
    apply Binary.value_add_nonpos
    linarith
  apply Binary.value_mul_nonpos
  rw [value_thousand]
  exact mul_nonpos_of_nonpos_of_nonneg hseconds (by norm_num)

theorem millis_eq {n : Int} (h : w.micros = n * 1000) : (w.micros : ℚ) / 10 ^ 3 = n := by
  rw [h]
  push_cast
  ring

theorem value_roundedMillis_of_eighths {n : Int} (h : w.micros = n * 125000) :
    (roundedMillis w).value = w.micros / 10 ^ 3 := by
  obtain ⟨hlow, hhigh⟩ := part_bounds w
  have hmicros := abs_le.1 (abs_micros_le (natAbs_micros_lt w))
  have heighths : (w.micros : ℚ) / 10 ^ 6 * 2 ^ 3 = n := by
    rw [h]
    push_cast
    ring
  have hpart : (partOfSecond w).value = (w.micros % secondMicros : Int) / 10 ^ 6 := by
    rw [← cast_secondMicros]
    apply Binary.value_round_of_parts (n := n - w.micros / secondMicros * 8) (by decide)
      (show 3 ≤ 52 by decide)
    · rw [cast_secondMicros, abs_of_nonneg (by positivity)]
      linarith
    · have hsplit := seconds_split w
      rw [cast_secondMicros]
      push_cast at hsplit ⊢
      linarith
  have hsum : (Binary.ofInt (w.micros / secondMicros)).value + (partOfSecond w).value =
      w.micros / 10 ^ 6 := by
    rw [value_whole, hpart, seconds_split]
  have hseconds : (roundedSeconds w).value = w.micros / 10 ^ 6 := by
    rw [← hsum]
    apply Binary.value_add_of_parts (show 3 ≤ 52 by decide)
    · rw [hsum, abs_lt]
      constructor <;> linarith
    · rw [hsum]
      exact heighths
  have hproduct : (roundedSeconds w).value * (Binary.ofInt 1000).value = w.micros / 10 ^ 3 := by
    rw [hseconds, value_thousand]
    ring
  rw [← hproduct]
  apply Binary.value_mul_of_parts (n := n * 125) (show 0 ≤ 52 by decide)
  · rw [hproduct, abs_lt]
    constructor <;> linarith
  · rw [hproduct, h]
    push_cast
    ring

/-- Where the thousandfold has ten bits more than the seconds, its units are coarser than a thousand
times those of the seconds, and it is rounded to the whole number that was lost. -/
theorem value_roundedMillis_of_millis {n : Int} (hbits : 5 ≤ bits) (h : w.micros = n * 1000)
    (hlow : 2 ^ bits * 1024000 < w.micros.natAbs) (hhigh : w.micros.natAbs < 2 ^ (bits + 1) * 10 ^ 6) :
    (roundedMillis w).value = n := by
  have hsize := natAbs_micros_lt w
  have hbelow : bits < 38 := by
    rw [← Nat.pow_lt_pow_iff_right (show 1 < 2 by decide)]
    omega
  have hleast : (2 : ℚ) ^ 5 ≤ 2 ^ bits := pow_le_pow_right₀ one_le_two hbits
  have hmost : (2 : ℚ) ^ bits ≤ 2 ^ 38 := pow_le_pow_right₀ one_le_two hbelow.le
  have hwhole : (2 : ℚ) ^ bits * 1024 + 1 ≤ |(n : ℚ)| := by
    have hint : 2 ^ bits * 1024 + 1 ≤ |n| := by
      rw [Int.abs_eq_natAbs]
      have hcast : (2 : Int) ^ bits * 1024000 < w.micros.natAbs := by exact_mod_cast hlow
      omega
    exact_mod_cast hint
  have hnear := abs_thousandfold_sub_le hhigh
  rw [millis_eq h, pow_succ] at hnear
  have hdrop := abs_sub_abs_le_abs_sub (n : ℚ) ((roundedSeconds w).value * (Binary.ofInt 1000).value)
  rw [abs_sub_comm] at hdrop
  apply Binary.value_mul_of_near (show bits + 10 ≤ 52 by omega)
  · rw [pow_add]
    linarith
  · rw [Nat.add_right_comm]
    exact abs_thousandfold_lt hhigh
  · rw [pow_add]
    linarith

theorem floatingMillis_of_nonneg (h : 0 ≤ w.micros) :
    floatingMillis w = ⌊(roundedMillis w).value⌋ := by
  rw [floatingMillis_eq, Binary.truncate_of_nonneg (roundedMillis_nonneg h)]

theorem floatingMillis_of_neg (h : w.micros < 0) :
    floatingMillis w = ⌈(roundedMillis w).value⌉ := by
  rw [floatingMillis_eq, Binary.truncate_of_nonpos (roundedMillis_nonpos h)]

theorem floatingMillis_of_value {n : Int} (h : (roundedMillis w).value = n) :
    floatingMillis w = n := by
  rcases Int.lt_or_le w.micros 0 with hneg | hnonneg
  · rw [floatingMillis_of_neg hneg, h, Int.ceil_intCast]
  · rw [floatingMillis_of_nonneg hnonneg, h, Int.floor_intCast]

theorem abs_roundedMillis_sub_lt {k : Nat} (h : w.micros.natAbs < 2 ^ (33 + k) * 10 ^ 6) :
    |(roundedMillis w).value * 1000 - w.micros| < 2 ^ k := by
  have hone : (1 : ℚ) ≤ 2 ^ k := one_le_pow₀ one_le_two
  have hnear := abs_le.1 (abs_roundedMillis_sub_le h)
  rw [pow_add] at hnear
  rw [abs_lt]
  constructor <;> linarith

theorem micros_split (w : Wall) :
    (w.micros : ℚ) = 1000 * (w.micros / 1000 : Int) + (w.micros % 1000 : Int) := by
  exact_mod_cast (Int.mul_ediv_add_emod w.micros 1000).symm

theorem rest_bounds (w : Wall) :
    0 ≤ ((w.micros % 1000 : Int) : ℚ) ∧ ((w.micros % 1000 : Int) : ℚ) ≤ 999 := by
  have hlow : 0 ≤ w.micros % 1000 := Int.emod_nonneg _ (by decide)
  have hhigh : w.micros % 1000 ≤ 999 := by omega
  exact ⟨by exact_mod_cast hlow, by exact_mod_cast hhigh⟩

theorem roundedMillis_inside {k : Nat} (h : w.micros.natAbs < 2 ^ (33 + k) * 10 ^ 6)
    (hlow : 2 ^ k ≤ w.micros % 1000) (hhigh : w.micros % 1000 + 2 ^ k ≤ 1000) :
    ((w.micros / 1000 : Int) : ℚ) < (roundedMillis w).value ∧
      (roundedMillis w).value < (w.micros / 1000 : Int) + 1 := by
  have hnear := abs_lt.1 (abs_roundedMillis_sub_lt h)
  have hsplit := micros_split w
  have hlow' : (2 : ℚ) ^ k ≤ (w.micros % 1000 : Int) := by exact_mod_cast hlow
  have hhigh' : ((w.micros % 1000 : Int) : ℚ) + 2 ^ k ≤ 1000 := by exact_mod_cast hhigh
  constructor <;> linarith

theorem roundedMillis_bounds (w : Wall) :
    ((w.micros / 1000 : Int) : ℚ) - 1 < (roundedMillis w).value ∧
      (roundedMillis w).value < (w.micros / 1000 : Int) + 2 := by
  have hnear := abs_lt.1 (abs_roundedMillis_sub_lt (k := 5) (natAbs_micros_lt w))
  have hsplit := micros_split w
  obtain ⟨hlow, hhigh⟩ := rest_bounds w
  constructor <;> linarith

/-- How the milliseconds of a floating time lie to those that the same time of universal time has, a
thousandth of its microseconds rounded down. -/
structure NearMillis (w : Wall) (ms : Int) : Prop where
  /-- What follows the point is dropped toward 1970. -/
  dropped : ms = if 0 ≤ w.micros then ⌊(roundedMillis w).value⌋ else ⌈(roundedMillis w).value⌉
  /-- The roundings, in microseconds: none in the centuries around 1970, 31 at the end of the calendar. -/
  rounding : ∀ k, w.micros.natAbs < 2 ^ (33 + k) * 10 ^ 6 →
    |(roundedMillis w).value * 1000 - w.micros| < 2 ^ k
  agrees_iff : ms = w.micros / 1000 ↔
    if 0 ≤ w.micros then ((w.micros / 1000 : Int) : ℚ) ≤ (roundedMillis w).value ∧
      (roundedMillis w).value < (w.micros / 1000 : Int) + 1
    else (roundedMillis w).value ≤ (w.micros / 1000 : Int)
  /-- Within a millisecond the two agree from 1970 on and never before. -/
  inside : ∀ k, w.micros.natAbs < 2 ^ (33 + k) * 10 ^ 6 → 2 ^ k ≤ w.micros % 1000 →
    w.micros % 1000 + 2 ^ k ≤ 1000 →
      ms = if 0 ≤ w.micros then w.micros / 1000 else w.micros / 1000 + 1
  eighths : 125000 ∣ w.micros → ms = w.micros / 1000
  /-- A whole millisecond is lost at most where the seconds are just above a power of two. -/
  whole : 1000 ∣ w.micros → ∀ k, 5 ≤ k → 2 ^ k * 1024000 < w.micros.natAbs →
    w.micros.natAbs < 2 ^ (k + 1) * 10 ^ 6 → ms = w.micros / 1000
  bounds : if 0 ≤ w.micros then w.micros / 1000 - 1 ≤ ms ∧ ms ≤ w.micros / 1000 + 1
    else w.micros / 1000 ≤ ms ∧ ms ≤ w.micros / 1000 + 2

theorem NearMillis.within {ms : Int} (h : NearMillis w ms) :
    w.micros / 1000 - 1 ≤ ms ∧ ms ≤ w.micros / 1000 + 2 := by
  have hbounds := h.bounds
  split at hbounds <;> omega

theorem nearMillis_floatingMillis (w : Wall) : NearMillis w (floatingMillis w) where
  dropped := by
    split
    · exact floatingMillis_of_nonneg ‹_›
    · exact floatingMillis_of_neg (Int.not_le.1 ‹_›)
  rounding _ := abs_roundedMillis_sub_lt
  agrees_iff := by
    obtain ⟨hlow, hhigh⟩ := roundedMillis_bounds w
    split
    · rw [floatingMillis_of_nonneg ‹_›, Int.floor_eq_iff]
    · rw [floatingMillis_of_neg (Int.not_le.1 ‹_›), Int.ceil_eq_iff]
      exact and_iff_right hlow
  inside k h hlow hhigh := by
    obtain ⟨hbelow, habove⟩ := roundedMillis_inside h hlow hhigh
    split
    · rw [floatingMillis_of_nonneg ‹_›, Int.floor_eq_iff]
      exact ⟨hbelow.le, habove⟩
    · rw [floatingMillis_of_neg (Int.not_le.1 ‹_›), Int.ceil_eq_iff]
      push_cast
      exact ⟨by linarith, habove.le⟩
  eighths h := by
    obtain ⟨n, hn⟩ := exists_eq_mul_left_of_dvd h
    have hmillis : w.micros = n * 125 * 1000 := by omega
    apply floatingMillis_of_value
    rw [value_roundedMillis_of_eighths hn, millis_eq hmillis, hmillis, Int.mul_ediv_cancel _ (by decide)]
  whole h k hk hlow hhigh := by
    obtain ⟨n, hn⟩ := exists_eq_mul_left_of_dvd h
    apply floatingMillis_of_value
    rw [value_roundedMillis_of_millis hk hn hlow hhigh, hn, Int.mul_ediv_cancel _ (by decide)]
  bounds := by
    obtain ⟨hlow, hhigh⟩ := roundedMillis_bounds w
    split
    · rw [floatingMillis_of_nonneg ‹_›, Int.le_floor, ← Int.lt_add_one_iff, Int.floor_lt]
      push_cast
      exact ⟨hlow.le, by linarith⟩
    · rw [floatingMillis_of_neg (Int.not_le.1 ‹_›), ← Int.sub_one_lt_iff, Int.lt_ceil, Int.ceil_le]
      push_cast
      exact ⟨hlow, hhigh.le⟩

end TimeWindow.Calendar.Moment
