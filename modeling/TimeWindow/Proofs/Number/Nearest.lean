import Mathlib.Data.Rat.Floor
import Mathlib.Tactic.FieldSimp
import Mathlib.Tactic.Linarith
import Mathlib.Tactic.Positivity
import Mathlib.Tactic.Ring
import TimeWindow.Proofs.Number.Rounding

/-!
Binary fractions as the numbers that they stand for. A rounded quotient is at most half a unit of
its last place away from the exact one, and a power of two above the quotient tells how large that
unit is at most. A quotient that these units count is kept, and one that is nearer than half a unit
to a whole number becomes that number.
-/

namespace TimeWindow.Number

theorem cast_pow2 (n : Nat) : ((pow2 n : Nat) : ℚ) = 2 ^ n := Nat.cast_pow 2 n

theorem roundDiv_bounds (num : Nat) {den : Nat} (hden : 0 < den) :
    2 * num ≤ 2 * (roundDiv num den * den) + den ∧ 2 * (roundDiv num den * den) ≤ 2 * num + den := by
  have hparts := Nat.div_add_mod' num den
  have hrest := Nat.mod_lt num hden
  simp only [roundDiv]
  split
  · omega
  · split
    · rw [Nat.succ_mul (num / den)]
      omega
    · split
      · omega
      · rw [Nat.succ_mul (num / den)]
        omega

theorem abs_roundDiv_sub_le (num : Nat) {den : Nat} (hden : 0 < den) :
    |(roundDiv num den : ℚ) - num / den| ≤ 1 / 2 := by
  obtain ⟨hlow, hhigh⟩ := roundDiv_bounds num hden
  have hpos : (0 : ℚ) < den := Nat.cast_pos.2 hden
  have hlow' : (2 * num : ℚ) ≤ 2 * (roundDiv num den * den) + den := by exact_mod_cast hlow
  have hhigh' : (2 * (roundDiv num den * den) : ℚ) ≤ 2 * num + den := by exact_mod_cast hhigh
  have hle : (num : ℚ) / den ≤ roundDiv num den + 1 / 2 := by
    rw [div_le_iff₀ hpos]
    linarith
  have hge : (roundDiv num den : ℚ) - 1 / 2 ≤ num / den := by
    rw [le_div_iff₀ hpos]
    linarith
  rw [abs_le]
  constructor <;> linarith

theorem le_leadingBit {num den bits : Nat} (hden : 0 < den) (h : den * pow2 bits ≤ num) :
    bits ≤ leadingBit num den := by
  have hself : pow2 (Nat.log2 den) ≤ den := Nat.log2_self_le hden.ne'
  have hnum : 0 < num := Nat.lt_of_lt_of_le (Nat.mul_pos hden (pow2_pos bits)) h
  have hlog : Nat.log2 den + bits ≤ Nat.log2 num := by
    rw [Nat.le_log2 hnum.ne']
    calc 2 ^ (Nat.log2 den + bits) = pow2 (Nat.log2 den) * pow2 bits := pow2_add _ _
      _ ≤ den * pow2 bits := Nat.mul_le_mul_right _ hself
      _ ≤ num := h
  simp only [leadingBit]
  split
  · rename_i hguess
    -- A guess that is one too high is above the bits, since the quotient reaches them.
    by_contra hlt
    have heq : (Nat.log2 num : Int) - Nat.log2 den = bits := by omega
    rw [heq, Int.toNat_natCast, Int.toNat_of_nonpos (by omega)] at hguess
    change num * 1 < _ at hguess
    omega
  · omega

namespace Binary

def value (a : Binary) : ℚ :=
  a.num / pow2 a.places

theorem value_nonneg_iff {a : Binary} : 0 ≤ a.value ↔ 0 ≤ a.num := by
  have hpos : (0 : ℚ) < pow2 a.places := Nat.cast_pos.2 (pow2_pos _)
  rw [value, le_div_iff₀ hpos, zero_mul, Int.cast_nonneg_iff]

theorem value_nonpos_iff {a : Binary} : a.value ≤ 0 ↔ a.num ≤ 0 := by
  have hpos : (0 : ℚ) < pow2 a.places := Nat.cast_pos.2 (pow2_pos _)
  rw [value, div_le_iff₀ hpos, zero_mul, Int.cast_nonpos]

theorem truncate_of_nonneg {a : Binary} (h : 0 ≤ a.value) : a.truncate = ⌊a.value⌋ := by
  rw [truncate, value, Rat.floor_intCast_div_natCast,
    Int.tdiv_eq_ediv_of_nonneg (value_nonneg_iff.1 h)]

theorem truncate_of_nonpos {a : Binary} (h : a.value ≤ 0) : a.truncate = ⌈a.value⌉ := by
  have hneg : 0 ≤ -a.num := Int.neg_nonneg_of_nonpos (value_nonpos_iff.1 h)
  rw [truncate, value, Rat.ceil_intCast_div_natCast, ← Int.tdiv_eq_ediv_of_nonneg hneg,
    Int.neg_tdiv, Int.neg_neg]

def lastPlace (num den : Nat) : Int :=
  max lowestPlace (leadingBit num den - (precision - 1 : Nat))

variable {num den bits grid : Nat}

theorem lastPlace_le (h : num < den * pow2 bits) : lastPlace num den ≤ bits - 53 := by
  have hbit := leadingBit_lt h
  simp only [lastPlace, lowestPlace, precision]
  omega

theorem le_lastPlace (hden : 0 < den) (h : den * pow2 bits ≤ num) :
    (bits : Int) - 52 ≤ lastPlace num den := by
  have hbit := le_leadingBit hden h
  simp only [lastPlace, precision]
  omega

theorem pow2_toNat_div (place : Int) :
    ((pow2 place.toNat : Nat) : ℚ) / (pow2 (-place).toNat : Nat) = 2 ^ place := by
  rw [cast_pow2, cast_pow2]
  rcases Int.le_total 0 place with h | h
  · rw [Int.toNat_of_nonpos (by omega : -place ≤ 0), pow_zero, div_one, ← zpow_natCast,
      Int.toNat_of_nonneg h]
  · rw [Int.toNat_of_nonpos h, pow_zero, ← zpow_natCast, Int.toNat_of_nonneg (by omega), zpow_neg,
      one_div, inv_inv]

theorem exists_units (num : Nat) (hden : 0 < den) : ∃ units : Nat,
    (roundMagnitude num den).value = units * 2 ^ lastPlace num den ∧
      |(units : ℚ) - num / den / 2 ^ lastPlace num den| ≤ 1 / 2 := by
  set place := lastPlace num den with hplace
  have hscaled : 0 < den * pow2 place.toNat := Nat.mul_pos hden (pow2_pos _)
  refine ⟨roundDiv (num * pow2 (-place).toNat) (den * pow2 place.toNat), ?_, ?_⟩
  · rw [← pow2_toNat_div, ← mul_div_assoc, value, roundMagnitude]
    push_cast
    rfl
  · have hnear := abs_roundDiv_sub_le (num * pow2 (-place).toNat) hscaled
    have hquotient : (num : ℚ) / den / 2 ^ place =
        (num * pow2 (-place).toNat : Nat) / (den * pow2 place.toNat : Nat) := by
      rw [← pow2_toNat_div]
      push_cast
      field_simp
    rwa [hquotient]

theorem abs_value_roundMagnitude_sub_le (hden : 0 < den) (h : num < den * pow2 bits) :
    |(roundMagnitude num den).value - num / den| ≤ 2 ^ bits / 2 ^ 54 := by
  obtain ⟨units, hvalue, hnear⟩ := exists_units num hden
  have hunit : (0 : ℚ) < 2 ^ lastPlace num den := zpow_pos two_pos _
  have hle : (2 : ℚ) ^ lastPlace num den ≤ 2 ^ bits / 2 ^ 53 := by
    rw [← zpow_natCast, ← zpow_natCast, ← zpow_sub₀ two_ne_zero]
    exact zpow_le_zpow_right₀ one_le_two (lastPlace_le h)
  calc |(roundMagnitude num den).value - num / den|
      = 2 ^ lastPlace num den * |(units : ℚ) - num / den / 2 ^ lastPlace num den| := by
        rw [hvalue, ← abs_of_pos hunit, ← abs_mul, abs_of_pos hunit]
        congr 1
        field_simp
    _ ≤ 2 ^ bits / 2 ^ 53 * (1 / 2) := mul_le_mul hle hnear (abs_nonneg _) (by positivity)
    _ = 2 ^ bits / 2 ^ 54 := by ring

theorem exists_parts_roundMagnitude (hden : 0 < den) (hbits : bits ≤ 52)
    (h : den * pow2 bits ≤ num) :
    ∃ parts : Int, (roundMagnitude num den).value * 2 ^ (52 - bits) = parts := by
  obtain ⟨units, hvalue, -⟩ := exists_units num hden
  obtain ⟨rest, hrest⟩ : ∃ rest : Nat, lastPlace num den + (52 - bits : Nat) = rest :=
    Int.eq_ofNat_of_zero_le (by have := le_lastPlace hden h; omega)
  refine ⟨units * 2 ^ rest, ?_⟩
  rw [hvalue, mul_assoc, ← zpow_natCast (2 : ℚ) (52 - bits), ← zpow_add₀ two_ne_zero, hrest]
  push_cast
  rw [zpow_natCast]

variable {num n : Int}

theorem round_cases (num : Int) (den : Nat) :
    ((num : ℚ) / den = num.natAbs / den ∧
        (round num den).value = (roundMagnitude num.natAbs den).value) ∨
      ((num : ℚ) / den = -(num.natAbs / den) ∧
        (round num den).value = -(roundMagnitude num.natAbs den).value) := by
  rcases Int.lt_or_le num 0 with h | h
  · refine .inr ⟨?_, ?_⟩
    · rw [Nat.cast_natAbs, abs_of_neg h, Int.cast_neg, neg_div, neg_neg]
    · rw [round, if_pos h, value, value, Int.cast_neg, neg_div]
  · refine .inl ⟨?_, ?_⟩
    · rw [Nat.cast_natAbs, abs_of_nonneg h]
    · rw [round, if_neg (Int.not_lt.2 h)]

theorem natAbs_lt_iff (hden : 0 < den) :
    num.natAbs < den * pow2 bits ↔ |(num : ℚ) / den| < 2 ^ bits := by
  have hpos : (0 : ℚ) < den := Nat.cast_pos.2 hden
  rw [abs_div, Nat.abs_cast, div_lt_iff₀ hpos, ← Int.cast_abs, ← Nat.cast_natAbs, ← cast_pow2,
    mul_comm]
  exact_mod_cast Iff.rfl

theorem le_natAbs_iff (hden : 0 < den) :
    den * pow2 bits ≤ num.natAbs ↔ 2 ^ bits ≤ |(num : ℚ) / den| := by
  rw [← not_lt, natAbs_lt_iff hden, not_lt]

/-- Below a power of two a rounded quotient is within half of the units that 53 bits count there. -/
theorem abs_value_round_sub_le (hden : 0 < den) (h : |(num : ℚ) / den| < 2 ^ bits) :
    |(round num den).value - num / den| ≤ 2 ^ bits / 2 ^ 54 := by
  have hnear := abs_value_roundMagnitude_sub_le hden ((natAbs_lt_iff hden).2 h)
  rcases round_cases num den with ⟨hquotient, hvalue⟩ | ⟨hquotient, hvalue⟩
  · rwa [hquotient, hvalue]
  · rwa [hquotient, hvalue, ← neg_sub', abs_neg]

theorem exists_parts_round (hden : 0 < den) (hbits : bits ≤ 52) (h : 2 ^ bits ≤ |(num : ℚ) / den|) :
    ∃ parts : Int, (round num den).value * 2 ^ (52 - bits) = parts := by
  obtain ⟨parts, hparts⟩ := exists_parts_roundMagnitude hden hbits ((le_natAbs_iff hden).2 h)
  rcases round_cases num den with ⟨-, hvalue⟩ | ⟨-, hvalue⟩
  · exact ⟨parts, by rw [hvalue, hparts]⟩
  · refine ⟨-parts, ?_⟩
    rw [hvalue, neg_mul, hparts, Int.cast_neg]

theorem value_round_nonneg (hden : 0 < den) (h : 0 ≤ (num : ℚ) / den) :
    0 ≤ (round num den).value := by
  have hpos : (0 : ℚ) < den := Nat.cast_pos.2 hden
  rw [le_div_iff₀ hpos, zero_mul, Int.cast_nonneg_iff] at h
  rw [value_nonneg_iff, round, if_neg (Int.not_lt.2 h)]
  exact Int.natCast_nonneg _

theorem value_round_nonpos (hden : 0 < den) (h : (num : ℚ) / den ≤ 0) :
    (round num den).value ≤ 0 := by
  have hopposite : 0 ≤ ((-num : Int) : ℚ) / den := by
    rw [Int.cast_neg, neg_div]
    exact neg_nonneg.2 h
  have hvalue := value_nonneg_iff.1 (value_round_nonneg hden hopposite)
  rw [round_neg] at hvalue
  exact value_nonpos_iff.2 (Int.nonpos_of_neg_nonneg hvalue)

theorem value_round_of_near (hden : 0 < den) (hbits : bits ≤ 52) (hlow : 2 ^ bits ≤ |(num : ℚ) / den|)
    (hhigh : |(num : ℚ) / den| < 2 ^ (bits + 1)) (hnear : |(num : ℚ) / den - n| < 2 ^ bits / 2 ^ 53) :
    (round num den).value = n := by
  obtain ⟨parts, hparts⟩ := exists_parts_round hden hbits hlow
  have hround := abs_value_round_sub_le hden hhigh
  have hunit : (0 : ℚ) < 2 ^ (52 - bits) := by positivity
  have hscale : (2 : ℚ) ^ bits * 2 ^ (52 - bits) = 2 ^ 52 := by
    rw [← pow_add, Nat.add_sub_cancel' hbits]
  -- In units the distance between the two whole numbers is less than one.
  have hdistance : |(round num den).value - n| < 2 ^ bits / 2 ^ 52 := by
    have htriangle := abs_sub_le (round num den).value (num / den) n
    rw [pow_succ] at hround
    linarith
  have hwhole : |parts - n * 2 ^ (52 - bits)| < 1 := by
    have hscaled := mul_lt_mul_of_pos_right hdistance hunit
    rw [div_mul_eq_mul_div, hscale, div_self (by positivity), ← abs_of_pos hunit, ← abs_mul, sub_mul,
      hparts] at hscaled
    exact_mod_cast hscaled
  rw [Int.abs_lt_one_iff, Int.sub_eq_zero] at hwhole
  rw [hwhole] at hparts
  push_cast at hparts
  exact mul_right_cancel₀ hunit.ne' hparts

theorem value_round_of_parts (hden : 0 < den) (hgrid : grid ≤ 52)
    (hsmall : |(num : ℚ) / den| < 2 ^ (52 - grid)) (h : (num : ℚ) / den * 2 ^ grid = n) :
    (round num den).value = num / den := by
  have hpos : (0 : ℚ) < den := Nat.cast_pos.2 hden
  have hsmall' := (natAbs_lt_iff hden).2 hsmall
  have hparts : num * pow2 grid = n * den := by
    have hquotient : (num : ℚ) * 2 ^ grid = n * den := by
      rw [← h]
      field_simp
    rw [← cast_pow2] at hquotient
    exact_mod_cast hquotient
  have hround : (round num den).num * pow2 grid = n * pow2 (round num den).places :=
    Int.le_antisymm (round_le_parts hden hgrid hsmall' (Int.le_of_eq hparts))
      (le_round_parts hden hgrid hsmall' (Int.le_of_eq hparts.symm))
  have hround' : ((round num den).num : ℚ) * 2 ^ grid = n * pow2 (round num den).places := by
    rw [← cast_pow2]
    exact_mod_cast hround
  have hplaces : (pow2 (round num den).places : ℚ) ≠ 0 := Nat.cast_ne_zero.2 (pow2_pos _).ne'
  refine mul_right_cancel₀ (pow_ne_zero grid (two_ne_zero (α := ℚ))) ?_
  rw [h, value, div_mul_eq_mul_div, hround', mul_div_cancel_right₀ _ hplaces]

theorem value_ofInt (h : |(n : ℚ)| < 2 ^ 52) : (ofInt n).value = n := by
  have hwhole := @value_round_of_parts 1 0 n n Nat.one_pos (Nat.zero_le 52)
  simp only [Nat.cast_one, div_one, pow_zero, mul_one, Nat.sub_zero] at hwhole
  exact hwhole h trivial

variable {a b : Binary}

theorem sum_eq (a b : Binary) : ((a.num * pow2 b.places + b.num * pow2 a.places : Int) : ℚ) /
    (pow2 (a.places + b.places) : Nat) = a.value + b.value := by
  have ha : (pow2 a.places : ℚ) ≠ 0 := Nat.cast_ne_zero.2 (pow2_pos _).ne'
  have hb : (pow2 b.places : ℚ) ≠ 0 := Nat.cast_ne_zero.2 (pow2_pos _).ne'
  rw [pow2_add, value, value]
  push_cast
  field_simp

theorem product_eq (a b : Binary) : ((a.num * b.num : Int) : ℚ) / (pow2 (a.places + b.places) : Nat) =
    a.value * b.value := by
  rw [pow2_add, value, value]
  push_cast
  rw [div_mul_div_comm]

theorem abs_value_add_sub_le (h : |a.value + b.value| < 2 ^ bits) :
    |(a.add b).value - (a.value + b.value)| ≤ 2 ^ bits / 2 ^ 54 := by
  rw [← sum_eq] at h ⊢
  exact abs_value_round_sub_le (pow2_pos _) h

theorem abs_value_mul_sub_le (h : |a.value * b.value| < 2 ^ bits) :
    |(a.mul b).value - a.value * b.value| ≤ 2 ^ bits / 2 ^ 54 := by
  rw [← product_eq] at h ⊢
  exact abs_value_round_sub_le (pow2_pos _) h

theorem value_add_nonneg (h : 0 ≤ a.value + b.value) : 0 ≤ (a.add b).value :=
  value_round_nonneg (pow2_pos _) (by rwa [sum_eq])

theorem value_add_nonpos (h : a.value + b.value ≤ 0) : (a.add b).value ≤ 0 :=
  value_round_nonpos (pow2_pos _) (by rwa [sum_eq])

theorem value_mul_nonneg (h : 0 ≤ a.value * b.value) : 0 ≤ (a.mul b).value :=
  value_round_nonneg (pow2_pos _) (by rwa [product_eq])

theorem value_mul_nonpos (h : a.value * b.value ≤ 0) : (a.mul b).value ≤ 0 :=
  value_round_nonpos (pow2_pos _) (by rwa [product_eq])

theorem value_add_of_parts (hgrid : grid ≤ 52) (hsmall : |a.value + b.value| < 2 ^ (52 - grid))
    (h : (a.value + b.value) * 2 ^ grid = n) : (a.add b).value = a.value + b.value := by
  rw [← sum_eq] at hsmall h ⊢
  exact value_round_of_parts (pow2_pos _) hgrid hsmall h

theorem value_mul_of_parts (hgrid : grid ≤ 52) (hsmall : |a.value * b.value| < 2 ^ (52 - grid))
    (h : a.value * b.value * 2 ^ grid = n) : (a.mul b).value = a.value * b.value := by
  rw [← product_eq] at hsmall h ⊢
  exact value_round_of_parts (pow2_pos _) hgrid hsmall h

theorem value_mul_of_near (hbits : bits ≤ 52) (hlow : 2 ^ bits ≤ |a.value * b.value|)
    (hhigh : |a.value * b.value| < 2 ^ (bits + 1)) (hnear : |a.value * b.value - n| < 2 ^ bits / 2 ^ 53) :
    (a.mul b).value = n := by
  rw [← product_eq] at hlow hhigh hnear
  exact value_round_of_near (pow2_pos _) hbits hlow hhigh hnear

end Binary

end TimeWindow.Number
