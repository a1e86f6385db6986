import Mathlib.Data.List.Basic
import Mathlib.Data.List.TakeWhile
import TimeWindow.Proofs.Text.Numeral
import TimeWindow.Window

/-!
The shape of keys. A key is spelled from three fields, none of which holds a closing bracket, and
the reader of fields takes exactly such spellings apart. A spelling holds three closing brackets
besides those of its fields, so no bracket inside a field can make it the spelling of other fields.
-/

namespace TimeWindow.Key

theorem takeField_append {opening : String} {field rest : List Char} (h : ')' ∉ field) :
    takeField opening (opening.toList ++ (field ++ ')' :: rest)) = some (field, rest) := by
  have hp : ∀ c ∈ field, decide (c ≠ ')') = true := by
    intro c hc
    exact decide_eq_true fun e => h (e ▸ hc)
  have front : opening.toList.isPrefixOf? (opening.toList ++ (field ++ ')' :: rest)) =
      some (field ++ ')' :: rest) := List.isPrefixOf?_eq_some_iff_append_eq.2 rfl
  rw [takeField, front, Option.bind_some, List.dropWhile_append_of_pos hp,
    List.takeWhile_append_of_pos hp]
  simp

theorem eq_append_of_takeField {opening : String} {cs field rest : List Char}
    (h : takeField opening cs = some (field, rest)) :
    cs = opening.toList ++ (field ++ ')' :: rest) ∧ ')' ∉ field := by
  obtain ⟨tail, front, h⟩ := Option.bind_eq_some_iff.1 h
  have parts := List.takeWhile_append_dropWhile (p := fun c => decide (c ≠ ')')) (l := tail)
  cases hd : tail.dropWhile fun c => decide (c ≠ ')') with
  | nil =>
    rw [hd] at h
    cases h
  | cons c after =>
    have hc : c = ')' := by
      have stop := List.head_dropWhile_not (fun c => decide (c ≠ ')')) (l := tail) (hd ▸ by simp)
      simpa only [hd, List.head_cons, decide_eq_false_iff_not, not_not] using stop
    subst hc
    rw [hd] at h
    cases h
    constructor
    · rw [← List.isPrefixOf?_eq_some_iff_append_eq.1 front, ← hd, parts]
    · intro hmem
      simpa using List.mem_takeWhile_imp hmem

def spelling (unit count reference : List Char) : List Char :=
  "unit=(".toList ++ (unit ++ ')' :: ("&count=(".toList ++ (count ++ ')' ::
    ("&referenceTime=(".toList ++ (reference ++ ')' :: [])))))

-- The equation that is made for the definition would spell the texts out.
theorem spelling_eq (unit count reference : List Char) : spelling unit count reference =
    "unit=(".toList ++ (unit ++ ')' :: ("&count=(".toList ++ (count ++ ')' ::
      ("&referenceTime=(".toList ++ (reference ++ ')' :: []))))) := rfl

theorem toList_spelled (unit count reference : String) :
    ("unit=(" ++ unit ++ ")&count=(" ++ count ++ ")&referenceTime=(" ++ reference ++ ")").toList =
      spelling unit.toList count.toList reference.toList := by
  have hcount : ")&count=(".toList = ')' :: "&count=(".toList := by decide
  have href : ")&referenceTime=(".toList = ')' :: "&referenceTime=(".toList := by decide
  have hclose : ")".toList = [')'] := by decide
  simp only [spelling_eq, String.toList_append, hcount, href, hclose, List.append_assoc,
    List.cons_append]

theorem toList_write (unit : String) (count : Int) (reference : String) :
    (write unit count reference).toList =
      spelling unit.toList (Text.integerText count).toList reference.toList :=
  toList_spelled unit (Text.integerText count) reference

theorem fields_spelling {unit count reference : List Char} (hunit : ')' ∉ unit)
    (hcount : ')' ∉ count) (href : ')' ∉ reference) :
    fields (spelling unit count reference) = some (unit, count, reference) := by
  rw [fields, spelling_eq, takeField_append hunit]
  change (takeField "&count=(" _).bind _ = _
  rw [takeField_append hcount]
  change (takeField "&referenceTime=(" _).bind _ = _
  rw [takeField_append href]
  rfl

theorem eq_spelling_of_fields {cs unit count reference : List Char}
    (h : fields cs = some (unit, count, reference)) :
    cs = spelling unit count reference ∧ ')' ∉ unit ∧ ')' ∉ count ∧ ')' ∉ reference := by
  obtain ⟨⟨u, rest₁⟩, h₁, after₁⟩ := Option.bind_eq_some_iff.1 h
  obtain ⟨⟨d, rest₂⟩, h₂, after₂⟩ := Option.bind_eq_some_iff.1 after₁
  obtain ⟨⟨r, rest₃⟩, h₃, after₃⟩ := Option.bind_eq_some_iff.1 after₂
  obtain ⟨rfl, hu⟩ := eq_append_of_takeField h₁
  obtain ⟨rfl, hd⟩ := eq_append_of_takeField h₂
  obtain ⟨rfl, hr⟩ := eq_append_of_takeField h₃
  cases rest₃ with
  | nil =>
    cases after₃
    exact ⟨rfl, hu, hd, hr⟩
  | cons c rest => cases after₃

theorem count_spelling (unit count reference : List Char) :
    (spelling unit count reference).count ')' =
      unit.count ')' + count.count ')' + reference.count ')' + 3 := by
  have hunit : "unit=(".toList.count ')' = 0 := by decide
  have hcount : "&count=(".toList.count ')' = 0 := by decide
  have href : "&referenceTime=(".toList.count ')' = 0 := by decide
  simp only [spelling_eq, List.count_append, List.count_cons_self, List.count_nil, hunit, hcount, href]
  omega

/-- The fields of a spelling are the ones that it was spelled from, whatever these hold. -/
theorem fields_spelling_eq_some_iff {unit count reference u d r : List Char} :
    fields (spelling unit count reference) = some (u, d, r) ↔
      (u = unit ∧ d = count ∧ r = reference) ∧
        ')' ∉ unit ∧ ')' ∉ count ∧ ')' ∉ reference := by
  constructor
  · intro h
    obtain ⟨same, hu, hd, hr⟩ := eq_spelling_of_fields h
    have total := congrArg (List.count ')') same
    rw [count_spelling, count_spelling, List.count_eq_zero_of_not_mem hu,
      List.count_eq_zero_of_not_mem hd, List.count_eq_zero_of_not_mem hr] at total
    have hunit : ')' ∉ unit := List.count_eq_zero.1 (by omega)
    have hcount : ')' ∉ count := List.count_eq_zero.1 (by omega)
    have href : ')' ∉ reference := List.count_eq_zero.1 (by omega)
    rw [fields_spelling hunit hcount href] at h
    cases h
    exact ⟨⟨rfl, rfl, rfl⟩, hunit, hcount, href⟩
  · rintro ⟨⟨rfl, rfl, rfl⟩, hunit, hcount, href⟩
    exact fields_spelling hunit hcount href

theorem close_notMem_integerText (n : Int) : ')' ∉ (Text.integerText n).toList := by
  intro h
  rcases Text.isDigit_or_minus_of_mem h with h | h
  · exact absurd h (by decide)
  · exact absurd h (by decide)

theorem signedDigits_digits {n : Nat} :
    signedDigits (Nat.toDigits 10 n) = some (false, Nat.toDigits 10 n) := by
  have hall : (Nat.toDigits 10 n).all Char.isDigit = true :=
    List.all_eq_true.2 fun c hc => Text.isDigit_of_mem_digits hc
  cases hd : Nat.toDigits 10 n with
  | nil => exact absurd hd Nat.toDigits_ne_nil
  | cons c rest =>
    have hc : c ≠ '-' := by
      rintro rfl
      exact absurd (Text.isDigit_of_mem_digits (hd ▸ List.mem_cons_self)) (by decide)
    rw [hd] at hall
    simp [signedDigits, hc, hall]

theorem signedDigits_minus {n : Nat} :
    signedDigits ('-' :: Nat.toDigits 10 n) = some (true, Nat.toDigits 10 n) := by
  have hall : (Nat.toDigits 10 n).all Char.isDigit = true :=
    List.all_eq_true.2 fun c hc => Text.isDigit_of_mem_digits hc
  simp [signedDigits, hall]

theorem signedDigits_integerText (n : Int) :
    signedDigits (Text.integerText n).toList = some (decide (n < 0), Nat.toDigits 10 n.natAbs) := by
  rw [Text.toList_integerText]
  split <;> rename_i h
  · rw [signedDigits_minus, decide_eq_true h]
  · rw [signedDigits_digits, decide_eq_false h]

end TimeWindow.Key
