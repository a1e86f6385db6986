import Mathlib
import TimeWindow.Text.Numeral

/-!
Numerals and the numbers that they spell. Written digits are read back to their number, a run of
digits spells less than its length allows, and so whatever has been read can be written again; it is
written with the digits that were read unless a zero leads them.
-/

namespace TimeWindow.Text

theorem digitValue?_of_isDigit {c : Char} (h : c.isDigit) :
    digitValue? c = some (c.toNat - 48) := by
  obtain ⟨low, high⟩ := Char.isDigit_iff_toNat.1 h
  have low : 48 ≤ c.toNat := low
  have high : c.toNat ≤ 57 := high
  have found : decimals.find? (fun run => run.1 ≤ c.toNat && c.toNat ≤ run.2) = some (48, 57) := by
    rw [decimals, List.find?_cons_of_pos]
    simp [low, high]
  rw [digitValue?, found]
  simp only [Option.map_some, Option.some.injEq]
  omega

theorem foldl_eq_ofDigitChars {cs : List Char} (h : ∀ c ∈ cs, c.isDigit) (start : Nat) :
    cs.foldl (fun n c => 10 * n + (digitValue? c).getD 0) start = Nat.ofDigitChars 10 cs start := by
  induction cs generalizing start with
  | nil => simp
  | cons c rest ih =>
    have hc := digitValue?_of_isDigit (h c List.mem_cons_self)
    have hrest : ∀ d ∈ rest, d.isDigit := fun d hd => h d (List.mem_cons_of_mem c hd)
    rw [List.foldl_cons, ih hrest, Nat.ofDigitChars_cons, hc]
    rfl

theorem valueOfDigits_eq_ofDigitChars {cs : List Char} (h : ∀ c ∈ cs, c.isDigit) :
    valueOfDigits cs = Nat.ofDigitChars 10 cs 0 :=
  foldl_eq_ofDigitChars h 0

theorem isDigit_of_mem_digits {n : Nat} {c : Char} (h : c ∈ Nat.toDigits 10 n) : c.isDigit :=
  Nat.isDigit_of_mem_toDigits (by decide) (by decide) h

theorem valueOfDigits_toDigits (n : Nat) : valueOfDigits (Nat.toDigits 10 n) = n := by
  rw [valueOfDigits_eq_ofDigitChars fun c hc => isDigit_of_mem_digits hc]
  exact Nat.ofDigitChars_ten_toDigits

theorem valueOfDigits_eq_ofDigits (cs : List Char) : valueOfDigits cs =
    Nat.ofDigits 10 (cs.map fun c => (digitValue? c).getD 0).reverse := by
  rw [Nat.ofDigits_eq_foldr, List.foldr_reverse, List.foldl_map, valueOfDigits]
  simp only [Nat.cast_id, Nat.add_comm]

theorem digitValue?_le {c : Char} : (digitValue? c).getD 0 ≤ 9 := by
  rw [digitValue?]
  cases decimals.find? fun run => run.1 ≤ c.toNat && c.toNat ≤ run.2 with
  | none => simp
  | some run =>
    simp only [Option.map_some, Option.getD_some]
    omega

theorem foldl_lt (cs : List Char) {start bound : Nat} (h : start < bound) :
    cs.foldl (fun n c => 10 * n + (digitValue? c).getD 0) start < bound * 10 ^ cs.length := by
  induction cs generalizing start bound with
  | nil => simpa using h
  | cons c rest ih =>
    have hc := digitValue?_le (c := c)
    have step : 10 * start + (digitValue? c).getD 0 < bound * 10 := by omega
    rw [List.foldl_cons, List.length_cons, Nat.pow_succ', ← Nat.mul_assoc]
    exact ih step

theorem valueOfDigits_lt (cs : List Char) : valueOfDigits cs < 10 ^ cs.length := by
  simpa [valueOfDigits] using foldl_lt cs Nat.one_pos

theorem isWritable_iff {n : Int} : isWritable n = true ↔ n.natAbs < 10 ^ maxDigits := by
  rw [isWritable]
  rw [decide_eq_true_iff]
  exact Nat.length_toDigits_le_iff (by decide) (by decide)

theorem isWritable_neg {n : Int} : isWritable (-n) = isWritable n := by
  simp [isWritable]

theorem isWritable_valueOfDigits {digits : List Char} (h : digits.length ≤ maxDigits) :
    isWritable (valueOfDigits digits : Nat) := by
  rw [isWritable_iff, Int.natAbs_natCast]
  exact Nat.lt_of_lt_of_le (valueOfDigits_lt digits) (Nat.pow_le_pow_right (by decide) h)

theorem isWritable_signed {negative : Bool} {digits : List Char} (h : digits.length ≤ maxDigits) :
    isWritable (if negative then -(valueOfDigits digits : Int) else valueOfDigits digits) := by
  cases negative with
  | false => exact isWritable_valueOfDigits h
  | true =>
    rw [if_pos rfl, isWritable_neg]
    exact isWritable_valueOfDigits h

theorem isWritable_of_readInteger {s : String} {n : Int} (h : readInteger s = .ok n) :
    isWritable n := by
  rw [readInteger] at h
  dsimp only at h
  split at h
  · cases h
  · split at h
    · cases h
    · split at h
      · rename_i short _
        cases h
        exact isWritable_signed (Nat.le_of_not_lt short)
      · cases h

theorem Ranges.covers_eq_false {a b : Ranges} {c : Char}
    (h : ∀ r ∈ a, ∀ s ∈ b, r.2 < s.1 ∨ s.2 < r.1) (hc : a.covers c = true) :
    b.covers c = false := by
  obtain ⟨r, hr, hr'⟩ := (covers_iff a c).1 hc
  rw [← Bool.not_eq_true]
  intro hb
  obtain ⟨s, hs, hs'⟩ := (covers_iff b c).1 hb
  have := h r hr s hs
  omega

theorem covers_of_isDecimal {c : Char} (h : isDecimal c = true) : decimals.covers c = true := by
  rw [isDecimal, digitValue?, Option.isSome_map, List.find?_isSome] at h
  exact List.any_eq_true.2 h

theorem isNumeralMargin_of_isDecimal {c : Char} (h : isDecimal c = true) :
    isNumeralMargin c = false := by
  have hblank : isBlank c = false :=
    Ranges.covers_eq_false (by decide) (covers_of_isDecimal h)
  rw [isNumeralMargin, hblank, Bool.false_and]

theorem digitsOfRun_eq_self {cs : List Char} (hne : cs ≠ []) (h : '_' ∉ cs) :
    digitsOfRun cs = some cs := by
  induction cs with
  | nil => exact absurd rfl hne
  | cons c rest ih =>
    rw [List.mem_cons, not_or] at h
    cases rest with
    | nil => rw [digitsOfRun, if_neg (Ne.symm h.1)]
    | cons d rest =>
      have hd : d ≠ '_' := fun e => h.2 (e ▸ List.mem_cons_self)
      rw [digitsOfRun, if_neg (Ne.symm h.1), if_neg hd, ih (List.cons_ne_nil d rest) h.2]
      rfl

theorem readInteger_digits {digits : List Char} (hne : digits ≠ [])
    (h : ∀ c ∈ digits, isDecimal c = true) : readInteger (String.ofList digits) =
      if maxDigits < digits.length then .error (.tooLong digits.length)
      else .ok (valueOfDigits digits) := by
  have hrun : ∀ c ∈ digits, (isDecimal c || c == '_') = true := by
    intro c hc
    rw [h c hc, Bool.true_or]
  have hline : '_' ∉ digits := fun hmem => absurd (h '_' hmem) (by decide)
  have hmargin : digits.dropWhile isNumeralMargin = digits := by
    cases digits with
    | nil => rfl
    | cons c rest =>
      have hc := isNumeralMargin_of_isDecimal (h c List.mem_cons_self)
      rw [List.dropWhile_cons_of_neg (by simp [hc])]
  have hsign : takeSign digits = (false, digits) := by
    unfold takeSign
    split
    · exact absurd (h '-' List.mem_cons_self) (by decide)
    · exact absurd (h '+' List.mem_cons_self) (by decide)
    · rfl
  rw [readInteger, String.toList_ofList, hmargin, hsign]
  dsimp only
  rw [List.takeWhile_eq_self_iff.2 hrun, digitsOfRun_eq_self hne hline,
    List.dropWhile_eq_nil_iff.2 hrun]
  rfl

theorem toList_integerText (n : Int) : (integerText n).toList =
    if n < 0 then '-' :: Nat.toDigits 10 n.natAbs else Nat.toDigits 10 n.natAbs := by
  simp [integerText]

theorem isDigit_or_minus_of_mem {n : Int} {c : Char} (h : c ∈ (integerText n).toList) :
    c.isDigit ∨ c = '-' := by
  rw [toList_integerText] at h
  split at h
  · rcases List.mem_cons.1 h with rfl | h
    · exact .inr rfl
    · exact .inl (isDigit_of_mem_digits h)
  · exact .inl (isDigit_of_mem_digits h)

theorem digitChar_of_isDigit {c : Char} (h : c.isDigit) :
    c.toNat - 48 < 10 ∧ Nat.digitChar (c.toNat - 48) = c := by
  obtain ⟨low, high⟩ := Char.isDigit_iff_toNat.1 h
  have low : 48 ≤ c.toNat := low
  have high : c.toNat ≤ 57 := high
  refine ⟨by omega, ?_⟩
  apply Char.toNat_inj.1
  rw [Nat.toNat_digitChar_of_lt_ten (by omega)]
  omega

theorem toDigits_ofDigitChars_of_pos {cs : List Char} (h : ∀ c ∈ cs, c.isDigit) {n : Nat}
    (hn : 0 < n) : Nat.toDigits 10 (Nat.ofDigitChars 10 cs n) = Nat.toDigits 10 n ++ cs := by
  induction cs generalizing n with
  | nil => rw [Nat.ofDigitChars_nil, List.append_nil]
  | cons c rest ih =>
    obtain ⟨hlt, hchar⟩ := digitChar_of_isDigit (h c List.mem_cons_self)
    have hrest : ∀ d ∈ rest, d.isDigit := fun d hd => h d (List.mem_cons_of_mem c hd)
    have hone := Nat.toDigits_append_toDigits (b := 10) (by decide) hn hlt
    rw [Nat.toDigits_of_lt_base hlt, hchar] at hone
    rw [Nat.ofDigitChars_cons]
    change Nat.toDigits 10 (Nat.ofDigitChars 10 rest (10 * n + (c.toNat - 48))) = _
    rw [ih hrest (by omega), ← hone, List.append_assoc]
    rfl

theorem toDigits_ofDigitChars_eq_iff {cs : List Char} (hne : cs ≠ [])
    (h : ∀ c ∈ cs, c.isDigit) : Nat.toDigits 10 (Nat.ofDigitChars 10 cs 0) = cs ↔
      (cs.head? = some '0' → cs = ['0']) := by
  cases cs with
  | nil => exact absurd rfl hne
  | cons c rest =>
    have hrest : ∀ d ∈ rest, d.isDigit := fun d hd => h d (List.mem_cons_of_mem c hd)
    obtain ⟨hlt, hchar⟩ := digitChar_of_isDigit (h c List.mem_cons_self)
    have hvalue : Nat.ofDigitChars 10 (c :: rest) 0 = Nat.ofDigitChars 10 rest (c.toNat - 48) := by
      rw [Nat.ofDigitChars_cons, Nat.mul_zero, Nat.zero_add]
      rfl
    rw [hvalue]
    by_cases hzero : c = '0'
    · subst hzero
      simp only [List.head?_cons, true_implies, List.cons.injEq, true_and]
      refine ⟨fun hsame => ?_, fun hnil => ?_⟩
      · by_contra hlong
        -- The other digits spell a number that needs no more places than they have.
        have hsmall : Nat.ofDigitChars 10 rest 0 < 10 ^ rest.length := by
          rw [← valueOfDigits_eq_ofDigitChars hrest]
          exact valueOfDigits_lt rest
        have hplaces := (Nat.length_toDigits_le_iff (by decide) (List.length_pos_iff.2 hlong)).2 hsmall
        change Nat.toDigits 10 (Nat.ofDigitChars 10 rest 0) = _ at hsame
        rw [hsame, List.length_cons] at hplaces
        omega
      · rw [hnil]
        rfl
    · have hpos : 0 < c.toNat - 48 := by
        by_contra hle
        have hz : c.toNat - 48 = 0 := by omega
        rw [hz] at hchar
        exact hzero hchar.symm
      rw [toDigits_ofDigitChars_of_pos hrest hpos, Nat.toDigits_of_lt_base hlt, hchar]
      simp [hzero]

end TimeWindow.Text
