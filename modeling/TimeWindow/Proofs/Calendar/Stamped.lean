import TimeWindow.Calendar.Stamp
import TimeWindow.Proofs.Calendar.View
import TimeWindow.Proofs.Text.Numeral

/-!
Time stamps read back. A stamp is read by its fixed places: date, time of day, perhaps a fraction,
and the distance to universal time, each within its bounds. The stamp of a moment is read as the
instant that the moment stands for, and a fraction is written exactly if the wall is within a
second.
-/

namespace TimeWindow.Calendar

instance (d : Date) : Decidable d.Valid :=
  decidable_of_iff (1 ≤ d.month ∧ d.month ≤ 12 ∧ 1 ≤ d.day ∧ d.day ≤ daysInMonth d.year d.month)
    ⟨fun ⟨h₁, h₂, h₃, h₄⟩ => ⟨h₁, h₂, h₃, h₄⟩, fun ⟨h₁, h₂, h₃, h₄⟩ => ⟨h₁, h₂, h₃, h₄⟩⟩

namespace Stamp

def digits? (width : Nat) (cs : List Char) : Option (Nat × List Char) :=
  if (cs.take width).length = width ∧ (cs.take width).all Char.isDigit = true then
    some (Nat.ofDigitChars 10 (cs.take width) 0, cs.drop width)
  else none

def mark? (mark : Char) : List Char → Option (List Char)
  | [] => none
  | c :: cs => if c = mark then some cs else none

def date? (cs : List Char) : Option (Date × List Char) := do
  let (year, cs) ← digits? 4 cs
  let cs ← mark? '-' cs
  let (month, cs) ← digits? 2 cs
  let cs ← mark? '-' cs
  let (day, cs) ← digits? 2 cs
  if 1 ≤ year ∧ (Date.mk year month day).Valid then some (⟨year, month, day⟩, cs) else none

def clock? (cs : List Char) : Option (Nat × List Char) := do
  let (hour, cs) ← digits? 2 cs
  let cs ← mark? ':' cs
  let (minute, cs) ← digits? 2 cs
  let (second, cs) := ((mark? ':' cs).bind (digits? 2)).getD (0, cs)
  if hour < 24 ∧ minute < 60 ∧ second < 60 then some (hour * 3600 + minute * 60 + second, cs) else none

def fraction (cs : List Char) : Nat × List Char :=
  ((mark? '.' cs).bind (digits? 6)).getD (0, cs)

def sign? : List Char → Option (Int × List Char)
  | '+' :: cs => some (1, cs)
  | '-' :: cs => some (-1, cs)
  | _ => none

/-- The instant that a stamp with a distance names, in microseconds. -/
def instant? (s : String) : Option Int := do
  let (date, cs) ← date? s.toList
  let cs ← mark? 'T' cs
  let (clock, cs) ← clock? cs
  let (fraction, cs) := fraction cs
  let (sign, cs) ← sign? cs
  let (distance, cs) ← clock? cs
  if cs.isEmpty then
    some (date.dayNumber * dayMicros + clock * secondMicros + fraction -
      sign * distance * secondMicros)
  else none

variable {width n : Nat} {rest : List Char}

theorem ofDigitChars_zeros (count : Nat) (digits : List Char) :
    Nat.ofDigitChars 10 (List.replicate count '0' ++ digits) 0 = Nat.ofDigitChars 10 digits 0 := by
  induction count with
  | zero => rfl
  | succ count ih => exact ih

theorem toList_padded (width n : Nat) : (padded width n).toList =
    List.replicate (width - (Nat.toDigits 10 n).length) '0' ++ Nat.toDigits 10 n := by
  rw [padded, String.toList_ofList]

theorem isDigit_of_mem_padded {c : Char} (h : c ∈ (padded width n).toList) : c.isDigit = true := by
  rw [toList_padded, List.mem_append] at h
  rcases h with h | h
  · rw [List.eq_of_mem_replicate h]
    rfl
  · exact Text.isDigit_of_mem_digits h

theorem digits?_padded (hwidth : 0 < width) (h : n < 10 ^ width) (rest : List Char) :
    digits? width ((padded width n).toList ++ rest) = some (n, rest) := by
  have hshort := (Nat.length_toDigits_le_iff (by decide) hwidth).2 h
  have hlength : (padded width n).toList.length = width := by
    rw [toList_padded, List.length_append, List.length_replicate]
    omega
  have hvalue : Nat.ofDigitChars 10 (padded width n).toList 0 = n := by
    rw [toList_padded, ofDigitChars_zeros, Nat.ofDigitChars_ten_toDigits]
  have hdigits : (padded width n).toList.all Char.isDigit = true :=
    List.all_eq_true.2 fun c hc => isDigit_of_mem_padded hc
  rw [digits?, List.take_left' hlength, List.drop_left' hlength, if_pos ⟨hlength, hdigits⟩, hvalue]

theorem mark?_cons (mark : Char) (rest : List Char) : mark? mark (mark :: rest) = some rest :=
  if_pos rfl

theorem mark?_eq_none {mark : Char} (h : rest.head? ≠ some mark) : mark? mark rest = none := by
  cases rest with
  | nil => rfl
  | cons c rest =>
    refine if_neg fun hc => h ?_
    rw [hc]
    rfl

theorem date?_ofDate {d : Date} (hd : d.Valid) (hyear : 1 ≤ d.year ∧ d.year ≤ 9999)
    (rest : List Char) : date? ((ofDate d).toList ++ rest) = some (d, rest) := by
  have hmonth := hd.month_le
  have hday := hd.day_le
  have hlong := Date.daysInMonth_bounds d.year d.month
  have hcast : (d.year.toNat : Int) = d.year := Int.toNat_of_nonneg (by omega)
  have hread : (⟨(d.year.toNat : Int), d.month, d.day⟩ : Date) = d := by rw [hcast]
  have hvalid : 1 ≤ d.year.toNat ∧ d.Valid := ⟨by omega, hd⟩
  have hdash : ∀ rest, mark? '-' ("-".toList ++ rest) = some rest := mark?_cons '-'
  have hyears := digits?_padded (n := d.year.toNat) (show 0 < 4 by decide) (by omega)
  have hmonths := digits?_padded (n := d.month) (show 0 < 2 by decide) (by omega)
  have hdays := digits?_padded (n := d.day) (show 0 < 2 by decide) (by omega)
  simp only [ofDate, date?, String.toList_append, List.append_assoc, hdash, hyears, hmonths, hdays,
    Option.bind_eq_bind, Option.bind_some, hread, if_pos hvalid]

theorem clock?_ofSeconds (h : n < 86400) (always : Bool) (hrest : rest.head? ≠ some ':') :
    clock? ((ofSeconds n always).toList ++ rest) = some (n, rest) := by
  have hcolon : ∀ rest, mark? ':' (":".toList ++ rest) = some rest := mark?_cons ':'
  have hhours := digits?_padded (n := n / 3600) (show 0 < 2 by decide) (by omega)
  have hminutes := digits?_padded (n := n / 60 % 60) (show 0 < 2 by decide) (by omega)
  have hseconds := digits?_padded (n := n % 60) (show 0 < 2 by decide) (by omega)
  have hsum : n / 3600 * 3600 + n / 60 % 60 * 60 + n % 60 = n := by omega
  have hbounds : n / 3600 < 24 ∧ n / 60 % 60 < 60 ∧ n % 60 < 60 := by omega
  rw [ofSeconds]
  split
  · simp only [clock?, String.toList_append, List.append_assoc, hcolon, hhours, hminutes, hseconds,
      Option.bind_eq_bind, Option.bind_some, Option.getD_some, if_pos hbounds, hsum]
  · rename_i hwhole
    have hzero : n % 60 = 0 := by simp_all
    rw [hzero] at hsum
    simp only [clock?, String.toList_append, List.append_assoc, hcolon, hhours, hminutes,
      mark?_eq_none hrest, Option.bind_eq_bind, Option.bind_some, Option.bind_none, Option.getD_none,
      hsum]
    simp [hbounds]

def fractionText (micros : Nat) : String :=
  if micros = 0 then "" else "." ++ padded 6 micros

theorem ofTimeOfDay_eq (micros : Nat) : ofTimeOfDay micros =
    ofSeconds (micros / 1000000) true ++ fractionText (micros % 1000000) := rfl

theorem head_fractionText (hrest : rest.head? ≠ some ':') :
    ((fractionText n).toList ++ rest).head? ≠ some ':' := by
  rw [fractionText]
  split
  · exact hrest
  · simp

theorem fraction_fractionText (h : n < 1000000) (hrest : rest.head? ≠ some '.') :
    fraction ((fractionText n).toList ++ rest) = (n, rest) := by
  have hpoint : ∀ rest, mark? '.' (".".toList ++ rest) = some rest := mark?_cons '.'
  have hdigits := digits?_padded (n := n) (show 0 < 6 by decide) (by omega)
  rw [fractionText]
  split
  · rename_i hzero
    rw [fraction, hzero]
    exact congrArg (fun found => (Option.bind found (digits? 6)).getD (0, rest)) (mark?_eq_none hrest)
  · simp only [fraction, String.toList_append, List.append_assoc, hpoint, hdigits, Option.bind_some,
      Option.getD_some]

theorem sign?_text (o : Int) (rest : List Char) :
    ∃ sign, sign? ((if o < 0 then "-" else "+").toList ++ rest) = some (sign, rest) ∧
      sign * o.natAbs = o := by
  split
  · exact ⟨-1, rfl, by omega⟩
  · exact ⟨1, rfl, by omega⟩

theorem head_offset {o : Int} {c : Char} (hplus : c ≠ '+') (hminus : c ≠ '-') :
    (ofOffset (some o)).toList.head? ≠ some c := by
  rw [ofOffset]
  split <;> simp [hplus.symm, hminus.symm]

theorem instant?_ofWall (w : Wall) {o : Int} (ho : o.natAbs < 86400) :
    instant? (ofWall w (some o)) = some (Moment.instant w o) := by
  have htime := w.timeOfDay_bounds
  have hT : ∀ rest, mark? 'T' ("T".toList ++ rest) = some rest := mark?_cons 'T'
  have hdate := date?_ofDate w.date_valid w.year_bounds
  have hshort : w.timeOfDay.toNat / 1000000 < 86400 := by
    simp only [dayMicros] at htime
    omega
  have hcolon : (ofOffset (some o)).toList.head? ≠ some ':' := head_offset (by decide) (by decide)
  have hpoint : (ofOffset (some o)).toList.head? ≠ some '.' := head_offset (by decide) (by decide)
  have hclock := clock?_ofSeconds hshort true
    (head_fractionText (n := w.timeOfDay.toNat % 1000000) hcolon)
  have hfraction := fraction_fractionText
    (show w.timeOfDay.toNat % 1000000 < 1000000 by omega) hpoint
  obtain ⟨sign, hsign, hvalue⟩ := sign?_text o (ofSeconds o.natAbs false).toList
  have hdistance := @clock?_ofSeconds o.natAbs [] ho false (by simp)
  rw [List.append_nil] at hdistance
  rw [ofWall, ofTimeOfDay_eq]
  simp only [instant?, String.toList_append, List.append_assoc, hdate, hT, hclock, hfraction,
    Option.bind_eq_bind, Option.bind_some]
  rw [ofOffset, String.toList_append, hsign]
  simp only [Option.bind_some, hdistance, List.isEmpty_nil, if_true, hvalue, Option.some.injEq]
  have hmicros := w.micros_eq
  rw [Moment.instant, hmicros, w.dayNumber_date]
  simp only [secondMicros]
  omega

example : instant? "1970-01-01T01:00:00.000250+01:00" = some 250 := by cbv

theorem point_notMem_padded (width n : Nat) : '.' ∉ (padded width n).toList := fun h =>
  absurd (isDigit_of_mem_padded h) (by decide)

theorem point_notMem_ofSeconds (n : Nat) (always : Bool) : '.' ∉ (ofSeconds n always).toList := by
  rw [ofSeconds]
  split <;> simp [point_notMem_padded]

theorem point_mem_fractionText_iff (n : Nat) : '.' ∈ (fractionText n).toList ↔ n ≠ 0 := by
  rw [fractionText]
  split
  · simp_all
  · simp_all

theorem point_mem_ofWall_iff (w : Wall) (o : Int) :
    '.' ∈ (ofWall w (some o)).toList ↔ ¬secondMicros ∣ w.micros := by
  have hoffset : '.' ∉ (ofOffset (some o)).toList := by
    rw [ofOffset]
    split <;> simp [point_notMem_ofSeconds]
  have hdate : '.' ∉ (ofDate w.date).toList := by
    simp [ofDate, point_notMem_padded]
  have hT : '.' ∉ "T".toList := by decide
  have htime := w.timeOfDay_bounds
  have hmicros := w.micros_eq
  rw [ofWall, ofTimeOfDay_eq]
  simp only [String.toList_append, List.mem_append, hoffset, hdate, hT, point_notMem_ofSeconds,
    point_mem_fractionText_iff, false_or, or_false]
  simp only [secondMicros, dayMicros] at *
  omega

end Stamp

namespace Moment

variable {t : Moment} {s : String}

theorem instant?_stamp (hz : t.zone ≠ .floating) (h : t.stamp = .ok s) :
    ∃ o, t.zone.offset t.wall t.second = .ok (some o) ∧
      Stamp.instant? s = some (instant t.wall o) ∧
        ('.' ∈ s.toList ↔ ¬secondMicros ∣ t.wall.micros) := by
  obtain ⟨shown, hshown, rfl⟩ := Except.map_eq_ok_iff.1 h
  cases shown with
  | none => exact absurd hshown (Zone.offset_ne_none hz _ _)
  | some o =>
    exact ⟨o, hshown, Stamp.instant?_ofWall t.wall (Zone.natAbs_offset_lt hshown),
      Stamp.point_mem_ofWall_iff t.wall o⟩

end Moment

end TimeWindow.Calendar
