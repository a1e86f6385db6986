import TimeWindow.Proofs.Failing
import TimeWindow.Proofs.Phrase.Standing

/-!
Phrases that cannot be read. The pattern for looking back takes digits in any number and letters
that only count as the letters of a unit, so two kinds of phrases are taken and then not understood:
those whose amount is too long and those that spell a unit with an undotted i or a dotted capital
one.
-/

namespace TimeWindow.Phrase

open Text (lower lowerChar isDecimal maxDigits)

def LookBack.digits (p : LookBack) : List Char :=
  (p.amount.map Prod.fst).getD []

/-- How many units a phrase looks back: the number that its digits spell, and one without digits. -/
def LookBack.number (p : LookBack) : Nat :=
  match p.amount with
  | none => 1
  | some (digits, _) =>
    Nat.ofDigits 10 (digits.map fun c => (Text.digitValue? c).getD 0).reverse

/-- A unit is spelled with one of the letters that count as an i and have another small form. -/
def LookBack.Misspelt (p : LookBack) : Prop :=
  '\u0130' ∈ p.unit ∨ '\u0131' ∈ p.unit

instance (p : LookBack) : Decidable p.Misspelt :=
  inferInstanceAs (Decidable (_ ∨ _))

inductive Faulty (text : String) : Fault → Prop
  | amount {p : LookBack} : findLookBack none text.toList = some p →
      maxDigits < p.digits.length → Faulty text (.amount (.tooLong p.digits.length))
  | unit {p : LookBack} : findLookBack none text.toList = some p →
      p.digits.length ≤ maxDigits → p.Misspelt →
        Faulty text (.unit (lower (String.ofList p.unit)))

structure LookBack.Taken (p : LookBack) : Prop where
  amount : ∀ digits blanks, p.amount = some (digits, blanks) →
    digits ≠ [] ∧ ∀ c ∈ digits, isDecimal c = true
  unit : ∃ entry ∈ unitWords, p.unit.map foldLetter = entry.1.toList

theorem LookBack.Shaped.taken {p : LookBack} (h : p.Shaped) : p.Taken where
  amount digits blanks hsome :=
    let run := (h.amount digits blanks hsome).1
    ⟨run.ne_nil, run.mem⟩
  unit := h.unit

theorem taken_of_findLookBack {cs : List Char} {p : LookBack} (h : findLookBack none cs = some p) :
    p.Taken := by
  obtain ⟨before, after, hstands, -⟩ := findLookBack_eq_some_iff.1 h
  exact hstands.shaped.taken

theorem LookBack.Taken.count_eq {p : LookBack} (h : p.Taken) :
    (maxDigits < p.digits.length ∧ p.count = .error (.tooLong p.digits.length)) ∨
      p.digits.length ≤ maxDigits ∧ p.count = .ok p.number := by
  rw [count, digits, number]
  cases hamount : p.amount with
  | none => exact .inr ⟨Nat.zero_le _, rfl⟩
  | some amount =>
    obtain ⟨digits, blanks⟩ := amount
    obtain ⟨hne, hdigits⟩ := h.amount digits blanks hamount
    dsimp only
    rw [Text.readInteger_digits hne hdigits, ← Text.valueOfDigits_eq_ofDigits]
    by_cases hlong : maxDigits < digits.length
    · exact .inl ⟨hlong, if_pos hlong⟩
    · exact .inr ⟨Nat.le_of_not_lt hlong, if_neg hlong⟩

theorem lowerChar_eq_of_foldLetter {c : Char} (hdotted : c ≠ '\u0130') (hundotted : c ≠ '\u0131')
    (hs : foldLetter c ≠ 's') : lowerChar c = [foldLetter c] := by
  have hlong : c ≠ '\u017F' := by
    rintro rfl
    exact hs (by decide)
  rw [lowerChar, foldLetter, if_neg hdotted, if_neg (not_or.2 ⟨hdotted, hundotted⟩), if_neg hlong]
  split <;> rfl

theorem flatMap_lowerChar {cs : List Char} (hdotted : '\u0130' ∉ cs) (hundotted : '\u0131' ∉ cs)
    (hs : 's' ∉ cs.map foldLetter) : cs.flatMap lowerChar = cs.map foldLetter := by
  induction cs with
  | nil => rfl
  | cons c rest ih =>
    simp only [List.map_cons, List.mem_cons, not_or] at *
    rw [List.flatMap_cons, ih hdotted.2 hundotted.2 hs.2,
      lowerChar_eq_of_foldLetter (Ne.symm hdotted.1) (Ne.symm hundotted.1) (Ne.symm hs.1)]
    rfl

theorem lookup_of_mem {entry : String × TimeUnit} (h : entry ∈ unitWords) :
    's' ∉ entry.1.toList ∧ unitWords.lookup entry.1 = some entry.2 := by
  have hall : ∀ entry ∈ unitWords,
      's' ∉ entry.1.toList ∧ unitWords.lookup entry.1 = some entry.2 := by
    decide
  exact hall entry h

theorem marks_notMem_unitWords :
    ∀ entry ∈ unitWords, '\u0307' ∉ entry.1.toList ∧ '\u0131' ∉ entry.1.toList := by
  decide

theorem lookup_eq_none {word : String} (h : '\u0307' ∈ word.toList ∨ '\u0131' ∈ word.toList) :
    unitWords.lookup word = none := by
  rw [List.lookup_eq_none_iff]
  intro entry hmem
  have hmarks := marks_notMem_unitWords entry hmem
  rw [bne_iff_ne]
  rintro rfl
  exact h.elim hmarks.1 hmarks.2

theorem LookBack.timeUnit_of_misspelt {p : LookBack} (h : p.Misspelt) :
    p.timeUnit = .error (.unit (lower (String.ofList p.unit))) := by
  have hmark : '\u0307' ∈ (lower (String.ofList p.unit)).toList ∨
      '\u0131' ∈ (lower (String.ofList p.unit)).toList := by
    simp only [lower, String.toList_ofList, List.mem_flatMap]
    rcases h with hmem | hmem
    · exact .inl ⟨_, hmem, by decide⟩
    · exact .inr ⟨_, hmem, by decide⟩
  rw [timeUnit, lookup_eq_none hmark]

theorem LookBack.timeUnit_of_spells {p : LookBack} {entry : String × TimeUnit}
    (hmem : entry ∈ unitWords) (hspells : Spells entry.1 p.unit) (h : ¬p.Misspelt) :
    p.timeUnit = .ok entry.2 := by
  rw [Misspelt, not_or] at h
  obtain ⟨hs, hlookup⟩ := lookup_of_mem hmem
  have hfold : p.unit.map foldLetter = entry.1.toList := hspells
  have hword : lower (String.ofList p.unit) = entry.1 := by
    rw [lower, String.toList_ofList, flatMap_lowerChar h.1 h.2 (hfold ▸ hs), hfold,
      String.ofList_toList]
  rw [timeUnit, hword, hlookup]

theorem LookBack.Taken.found_eq_error_iff {p : LookBack} (h : p.Taken) {e : Fault} :
    p.found = .error e ↔
      (maxDigits < p.digits.length ∧ e = .amount (.tooLong p.digits.length)) ∨
        p.digits.length ≤ maxDigits ∧ p.Misspelt ∧
          e = .unit (lower (String.ofList p.unit)) := by
  rw [found]
  rcases h.count_eq with ⟨hlong, hcount⟩ | ⟨hshort, hcount⟩
  · have hnot := Nat.not_le.2 hlong
    rw [hcount]
    simp [Except.mapError, bind, Except.bind, hlong, hnot, eq_comm]
  · have hnot := Nat.not_lt.2 hshort
    by_cases hmisspelt : p.Misspelt
    · rw [hcount, timeUnit_of_misspelt hmisspelt]
      simp [Except.mapError, bind, Except.bind, hshort, hnot, hmisspelt, eq_comm]
    · obtain ⟨entry, hmem, hspells⟩ := h.unit
      rw [hcount, timeUnit_of_spells hmem hspells hmisspelt]
      simp [Except.mapError, bind, Except.bind, pure, Except.pure, hnot, hmisspelt]

theorem LookBack.Taken.found_eq_ok {p : LookBack} (h : p.Taken)
    (hshort : p.digits.length ≤ maxDigits) (hspelt : ¬p.Misspelt) {entry : String × TimeUnit}
    (hmem : entry ∈ unitWords) (hspells : Spells entry.1 p.unit) :
    p.found = .ok ⟨String.ofList p.text, Window.descriptor ⟨entry.2, -p.number, .now⟩⟩ := by
  rcases h.count_eq with ⟨hlong, -⟩ | ⟨-, hcount⟩
  · exact absurd hshort (Nat.not_le.2 hlong)
  · rw [found, hcount, timeUnit_of_spells hmem hspells hspelt]
    rfl

theorem parse_eq_error_iff {text : String} {e : Fault} : parse text = .error e ↔ Faulty text e := by
  rw [parse]
  cases hfound : findLookBack none text.toList with
  | none =>
    refine ⟨fun h => ?_, fun h => ?_⟩
    · cases h
    · cases h with
      | amount hp _ | unit hp _ _ =>
        rw [hfound] at hp
        cases hp
  | some p =>
    rw [Except.map_eq_error_iff, (taken_of_findLookBack hfound).found_eq_error_iff]
    constructor
    · rintro (⟨hlong, rfl⟩ | ⟨hshort, hmisspelt, rfl⟩)
      · exact .amount hfound hlong
      · exact .unit hfound hshort hmisspelt
    · intro h
      cases h with
      | amount hp hlong =>
        cases hfound.symm.trans hp
        exact .inl ⟨hlong, rfl⟩
      | unit hp hshort hmisspelt =>
        cases hfound.symm.trans hp
        exact .inr ⟨hshort, hmisspelt, rfl⟩

theorem Faulty.unique {text : String} {e e' : Fault} (h : Faulty text e) (h' : Faulty text e') :
    e = e' := by
  have hsame := (parse_eq_error_iff.2 h).symm.trans (parse_eq_error_iff.2 h')
  exact Except.error.inj hsame

end TimeWindow.Phrase
