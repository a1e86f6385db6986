import Mathlib.Tactic.Linarith
import TimeWindow.Number.Binary

/-!
Rounding and whole numbers. A magnitude below `2 ^ 52` keeps all bits of its whole part, so rounding
it never goes past a whole number; a smaller one keeps bits after the point too and goes past none
of the parts that these count. The same holds of a sum.
-/

namespace TimeWindow.Number

theorem pow2_pos (n : Nat) : 0 < pow2 n := Nat.two_pow_pos n

theorem pow2_add (m n : Nat) : pow2 (m + n) = pow2 m * pow2 n := Nat.pow_add 2 m n

theorem div_le_roundDiv (num den : Nat) : num / den ≤ roundDiv num den := by
  simp only [roundDiv]
  split
  · exact Nat.le_refl _
  · split
    · exact Nat.le_succ _
    · split
      · exact Nat.le_refl _
      · exact Nat.le_succ _

theorem roundDiv_le_succ (num den : Nat) : roundDiv num den ≤ num / den + 1 := by
  simp only [roundDiv]
  split
  · exact Nat.le_succ _
  · split
    · exact Nat.le_refl _
    · split
      · exact Nat.le_succ _
      · exact Nat.le_refl _

theorem le_roundDiv {n num den : Nat} (hden : 0 < den) (h : n * den ≤ num) :
    n ≤ roundDiv num den :=
  Nat.le_trans ((Nat.le_div_iff_mul_le hden).2 h) (div_le_roundDiv num den)

theorem roundDiv_mul (n : Nat) {den : Nat} (hden : 0 < den) : roundDiv (n * den) den = n := by
  simp only [roundDiv, Nat.mul_div_cancel n hden, Nat.mul_mod_left, Nat.mul_zero, if_pos hden]

theorem roundDiv_le {n num den : Nat} (hden : 0 < den) (h : num ≤ n * den) :
    roundDiv num den ≤ n := by
  rcases Nat.lt_or_eq_of_le h with hlt | heq
  · have hdiv : num / den < n := (Nat.div_lt_iff_lt_mul hden).2 hlt
    exact Nat.le_trans (roundDiv_le_succ num den) hdiv
  · rw [heq, roundDiv_mul n hden]

theorem pow2_le {m n : Nat} (h : m ≤ n) : pow2 m ≤ pow2 n :=
  Nat.pow_le_pow_right (Nat.succ_pos 1) h

theorem le_roundDiv_scaled {n num den : Nat} (hden : 0 < den) (h : n * den ≤ num) (scale : Nat) :
    n * scale ≤ roundDiv (num * scale) den := by
  apply le_roundDiv hden
  rw [Nat.mul_right_comm]
  exact Nat.mul_le_mul_right scale h

theorem roundDiv_scaled_le {n num den : Nat} (hden : 0 < den) (h : num ≤ n * den) (scale : Nat) :
    roundDiv (num * scale) den ≤ n * scale := by
  apply roundDiv_le hden
  rw [Nat.mul_right_comm]
  exact Nat.mul_le_mul_right scale h

theorem leadingBit_lt {num den bits : Nat} (h : num < den * pow2 bits) :
    leadingBit num den < bits := by
  have hlog : den < pow2 (Nat.log2 den + 1) := Nat.lt_log2_self
  simp only [leadingBit]
  by_contra hlt
  split at hlt
  · have hnum : num ≠ 0 := by
      rintro rfl
      rw [Nat.log2_zero] at hlt
      omega
    have hself : pow2 (Nat.log2 num) ≤ num := Nat.log2_self_le hnum
    have hle : pow2 (Nat.log2 den + 1 + bits) ≤ pow2 (Nat.log2 num) := pow2_le (by omega)
    have hmul := Nat.mul_lt_mul_of_pos_right hlog (pow2_pos bits)
    rw [← pow2_add] at hmul
    omega
  · rename_i hguess
    have hzero : (-((Nat.log2 num : Int) - (Nat.log2 den : Int))).toNat = 0 := by omega
    rw [hzero] at hguess
    have hle : pow2 bits ≤ pow2 ((Nat.log2 num : Int) - (Nat.log2 den : Int)).toNat :=
      pow2_le (by omega)
    have hmul := Nat.mul_le_mul_left den hle
    change ¬num * 1 < _ at hguess
    omega

namespace Binary

/-- Far enough below the precision no bit of the whole part is lost, nor of the first places after
it. -/
theorem roundMagnitude_eq {num den grid : Nat} (hgrid : grid ≤ precision - 1)
    (h : num < den * pow2 (precision - 1 - grid)) : ∃ rest, roundMagnitude num den =
      ⟨(roundDiv (num * pow2 grid * pow2 rest) den : Nat), grid + rest⟩ := by
  have hbits := leadingBit_lt h
  have hgrid' : grid ≤ 52 := hgrid
  have hplace : max lowestPlace (leadingBit num den - (precision - 1 : Nat)) ≤ -(grid : Int) := by
    refine Int.max_le.2 ⟨?_, by omega⟩
    simp only [lowestPlace]
    omega
  obtain ⟨rest, hrest⟩ : ∃ rest : Nat,
      (-max lowestPlace (leadingBit num den - (precision - 1 : Nat))).toNat = grid + rest :=
    Nat.exists_eq_add_of_le (by omega)
  have hone : pow2 (max lowestPlace (leadingBit num den - (precision - 1 : Nat))).toNat = 1 := by
    rw [Int.toNat_of_nonpos (by omega)]
    rfl
  refine ⟨rest, ?_⟩
  simp only [roundMagnitude, hone, hrest, pow2_add, Nat.mul_one, Nat.mul_assoc]

theorem round_neg (num : Int) (den : Nat) :
    round (-num) den = ⟨-(round num den).num, (round num den).places⟩ := by
  simp only [round, Int.natAbs_neg]
  rcases Int.lt_trichotomy num 0 with h | rfl | h
  · rw [if_neg (by omega), if_pos h, Int.neg_neg]
  · have hzero : (roundMagnitude 0 den).num = 0 := by
      simp [roundMagnitude, roundDiv]
    rw [Int.neg_zero, if_neg (Int.lt_irrefl 0), Int.natAbs_zero, hzero, Int.neg_zero, ← hzero]
  · rw [if_pos (by omega), if_neg (by omega)]

theorem le_round_parts {num n : Int} {den grid : Nat} (hden : 0 < den) (hgrid : grid ≤ precision - 1)
    (hsmall : num.natAbs < den * pow2 (precision - 1 - grid)) (h : n * den ≤ num * pow2 grid) :
    n * pow2 (round num den).places ≤ (round num den).num * pow2 grid := by
  obtain ⟨rest, hm⟩ := roundMagnitude_eq hgrid hsmall
  have hpos : (0 : Int) < pow2 grid := Int.natCast_pos.2 (pow2_pos grid)
  -- A part of a whole number is a part of what is left of the places.
  have hparts : ∀ m : Int, n * pow2 rest ≤ m → n * pow2 (grid + rest) ≤ m * pow2 grid := by
    intro m hm
    have := Int.mul_le_mul_of_nonneg_right hm (Int.le_of_lt hpos)
    rw [pow2_add, Int.natCast_mul]
    linarith
  rcases Int.lt_or_le num 0 with hneg | hnonneg
  · obtain ⟨m, rfl⟩ : ∃ m : Nat, n = -m := by
      refine ⟨n.natAbs, ?_⟩
      by_contra hn
      have hleft := Int.mul_nonneg (show 0 ≤ n by omega) (Int.natCast_nonneg den)
      have hright := Int.mul_neg_of_neg_of_pos hneg hpos
      omega
    have habs : num.natAbs * pow2 grid ≤ m * den := by
      rw [Int.neg_mul] at h
      zify
      rw [abs_of_neg hneg]
      linarith
    have hround := roundDiv_scaled_le hden habs (pow2 rest)
    rw [round, if_pos hneg, hm]
    apply hparts
    dsimp only
    rw [Int.neg_mul]
    exact Int.neg_le_neg (by exact_mod_cast hround)
  · rw [round, if_neg (Int.not_lt.2 hnonneg), hm]
    apply hparts
    dsimp only
    rcases Int.lt_or_le n 0 with hn | hn
    · have := Int.mul_nonneg (show 0 ≤ -n by omega) (Int.natCast_nonneg (pow2 rest))
      rw [Int.neg_mul] at this
      omega
    · obtain ⟨m, rfl⟩ := Int.eq_ofNat_of_zero_le hn
      have habs : m * den ≤ num.natAbs * pow2 grid := by
        zify
        rwa [abs_of_nonneg hnonneg]
      exact_mod_cast le_roundDiv_scaled hden habs (pow2 rest)

theorem round_le_parts {num n : Int} {den grid : Nat} (hden : 0 < den) (hgrid : grid ≤ precision - 1)
    (hsmall : num.natAbs < den * pow2 (precision - 1 - grid)) (h : num * pow2 grid ≤ n * den) :
    (round num den).num * pow2 grid ≤ n * pow2 (round num den).places := by
  have hle : -n * den ≤ -num * pow2 grid := by
    rw [Int.neg_mul, Int.neg_mul]
    omega
  have hopposite := le_round_parts hden hgrid (by rwa [Int.natAbs_neg]) hle
  rw [round_neg, Int.neg_mul, Int.neg_mul] at hopposite
  exact Int.neg_le_neg_iff.1 hopposite

theorem pow2_zero_cast : ((pow2 0 : Nat) : Int) = 1 := rfl

theorem le_round {num n : Int} {den : Nat} (hden : 0 < den)
    (hsmall : num.natAbs < den * pow2 (precision - 1)) (h : n * den ≤ num) :
    n * pow2 (round num den).places ≤ (round num den).num := by
  have hround := @le_round_parts num n den 0 hden (Nat.zero_le _) hsmall
  simp only [pow2_zero_cast, Int.mul_one] at hround
  exact hround h

theorem round_le {num n : Int} {den : Nat} (hden : 0 < den)
    (hsmall : num.natAbs < den * pow2 (precision - 1)) (h : num ≤ n * den) :
    (round num den).num ≤ n * pow2 (round num den).places := by
  have hround := @round_le_parts num n den 0 hden (Nat.zero_le _) hsmall
  simp only [pow2_zero_cast, Int.mul_one] at hround
  exact hround h

theorem num_ofInt {n : Int} (h : n.natAbs < pow2 (precision - 1)) :
    (ofInt n).num = n * pow2 (ofInt n).places := by
  have hsmall : n.natAbs < 1 * pow2 (precision - 1) := by omega
  apply Int.le_antisymm
  · exact round_le Nat.one_pos hsmall (by omega)
  · exact le_round Nat.one_pos hsmall (by omega)

variable {a b : Binary} {m n : Int}

theorem add_num_le (ha : a.num ≤ m * pow2 a.places) (hb : b.num ≤ n * pow2 b.places) :
    a.num * pow2 b.places + b.num * pow2 a.places ≤ (m + n) * pow2 (a.places + b.places) := by
  have hpa := Int.natCast_nonneg (pow2 a.places)
  have hpb := Int.natCast_nonneg (pow2 b.places)
  rw [pow2_add, Int.natCast_mul]
  linarith [Int.mul_le_mul_of_nonneg_right ha hpb, Int.mul_le_mul_of_nonneg_right hb hpa]

theorem le_add_num (ha : m * pow2 a.places ≤ a.num) (hb : n * pow2 b.places ≤ b.num) :
    (m + n) * pow2 (a.places + b.places) ≤ a.num * pow2 b.places + b.num * pow2 a.places := by
  have hpa := Int.natCast_nonneg (pow2 a.places)
  have hpb := Int.natCast_nonneg (pow2 b.places)
  rw [pow2_add, Int.natCast_mul]
  linarith [Int.mul_le_mul_of_nonneg_right ha hpb, Int.mul_le_mul_of_nonneg_right hb hpa]

def Within (a : Binary) (limit : Nat) : Prop :=
  -limit * pow2 a.places ≤ a.num ∧ a.num ≤ limit * pow2 a.places

theorem within_round {num : Int} {den limit : Nat} (hden : 0 < den)
    (hsmall : num.natAbs < den * pow2 (precision - 1)) (h : num.natAbs ≤ limit * den) :
    (round num den).Within limit := by
  refine ⟨le_round hden hsmall ?_, round_le hden hsmall ?_⟩
  · rw [Int.neg_mul]
    omega
  · omega

theorem natAbs_add_num_lt {la lb limit : Nat} (ha : a.Within la) (hb : b.Within lb)
    (h : la + lb < limit) : (a.num * pow2 b.places + b.num * pow2 a.places).natAbs <
      pow2 (a.places + b.places) * limit := by
  have low := le_add_num ha.1 hb.1
  have high := add_num_le ha.2 hb.2
  have hcast : ((la : Int) + lb) * pow2 (a.places + b.places) =
      (pow2 (a.places + b.places) * (la + lb) : Nat) := by
    rw [Int.mul_comm]
    rfl
  rw [← Int.neg_add, Int.neg_mul, hcast] at low
  rw [hcast] at high
  have hle : (a.num * pow2 b.places + b.num * pow2 a.places).natAbs ≤
      pow2 (a.places + b.places) * (la + lb) := by
    omega
  exact Nat.lt_of_le_of_lt hle (Nat.mul_lt_mul_of_pos_left h (pow2_pos _))

theorem le_floor_add {la lb : Nat} (hla : a.Within la) (hlb : b.Within lb)
    (h : la + lb < pow2 (precision - 1)) (ha : m * pow2 a.places ≤ a.num)
    (hb : n * pow2 b.places ≤ b.num) : m + n ≤ (a.add b).floor := by
  refine (Int.le_ediv_iff_mul_le (Int.natCast_pos.2 (pow2_pos _))).2 ?_
  exact le_round (pow2_pos _) (natAbs_add_num_lt hla hlb h) (le_add_num ha hb)

theorem floor_add_le {la lb : Nat} (hla : a.Within la) (hlb : b.Within lb)
    (h : la + lb < pow2 (precision - 1)) (ha : a.num ≤ m * pow2 a.places)
    (hb : b.num ≤ n * pow2 b.places) : (a.add b).floor ≤ m + n := by
  have hround := round_le (pow2_pos _) (natAbs_add_num_lt hla hlb h) (add_num_le ha hb)
  exact Int.ediv_le_of_le_mul (Int.natCast_pos.2 (pow2_pos _)) hround

theorem floor_add_le_parts {la lb grid : Nat} (hgrid : grid ≤ precision - 1) (hla : a.Within la)
    (hlb : b.Within lb) (h : la + lb < pow2 (precision - 1 - grid))
    (ha : a.num * pow2 grid ≤ m * pow2 a.places) (hb : b.num * pow2 grid ≤ n * pow2 b.places) :
    (a.add b).floor ≤ (m + n) / pow2 grid := by
  have hsum := @add_num_le ⟨a.num * pow2 grid, a.places⟩ ⟨b.num * pow2 grid, b.places⟩ m n ha hb
  rw [Int.mul_right_comm a.num, Int.mul_right_comm b.num, ← Int.add_mul] at hsum
  have hround := round_le_parts (pow2_pos _) hgrid (natAbs_add_num_lt hla hlb h) hsum
  have hplaces : (0 : Int) < pow2 (a.add b).places := Int.natCast_pos.2 (pow2_pos _)
  have hfloor := Int.ediv_mul_le (a.add b).num (Int.ne_of_gt hplaces)
  rw [Int.le_ediv_iff_mul_le (Int.natCast_pos.2 (pow2_pos grid))]
  refine Int.le_of_mul_le_mul_right ?_ hplaces
  calc (a.add b).floor * pow2 grid * pow2 (a.add b).places
      = (a.add b).floor * pow2 (a.add b).places * pow2 grid := Int.mul_right_comm _ _ _
    _ ≤ (a.add b).num * pow2 grid :=
        Int.mul_le_mul_of_nonneg_right hfloor (Int.natCast_nonneg _)
    _ ≤ (m + n) * pow2 (a.add b).places := hround

end Binary

end TimeWindow.Number
