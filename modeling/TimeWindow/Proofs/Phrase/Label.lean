import TimeWindow.Proofs.Key.Respelled
import TimeWindow.Proofs.Phrase.Reading

/-!
Labels that are read as phrases. The label of a window of now looks back as a whole, by the digits
of its amount and the word for its unit, so it is read as that amount of that unit, and two such
labels are equal only if they say the same. No other label looks back.
-/

namespace TimeWindow

open Json (Value)
open Text (maxDigits)

namespace Phrase

open Descriptor (amountLabel)

variable {amount : Nat} {unit : TimeUnit}

def labelled (amount : Nat) (unit : TimeUnit) : LookBack where
  opening := "Last ".toList
  amount := some (Nat.toDigits 10 amount, [' '])
  unit := unit.text.toList
  plural := if amount = 1 then [] else ['s']

theorem text_labelled (amount : Nat) (unit : TimeUnit) :
    (labelled amount unit).text = (amountLabel amount unit).toList := by
  have hamount : (Text.integerText amount).toList = Nat.toDigits 10 amount := by
    simp [Text.toList_integerText]
  have hplural : (labelled amount unit).plural = (if amount = 1 then "" else "s").toList := by
    rw [labelled]
    split <;> rfl
  rw [LookBack.text_eq, amountLabel, hplural]
  simp [labelled, hamount]

theorem exists_unitWord (unit : TimeUnit) :
    ∃ word, (word, unit) ∈ unitWords ∧ Spells word unit.text.toList := by
  cases unit with
  | min => exact ⟨"min", by decide⟩
  | hour => exact ⟨"hour", by decide⟩
  | day => exact ⟨"day", by decide⟩
  | week => exact ⟨"week", by decide⟩
  | month => exact ⟨"month", by decide⟩
  | year => exact ⟨"year", by decide⟩

theorem isDecimal_of_mem_toDigits {c : Char} (h : c ∈ Nat.toDigits 10 amount) :
    Text.isDecimal c = true := by
  rw [Text.isDecimal, Text.digitValue?_of_isDigit (Text.isDigit_of_mem_digits h)]
  rfl

theorem run_blank : Run Text.isBlank [' '] where
  ne_nil := List.cons_ne_nil _ _
  mem := by
    simp only [List.mem_singleton, forall_eq]
    decide

theorem labelled_stands (amount : Nat) (unit : TimeUnit) :
    (labelled amount unit).Stands (amountLabel amount unit).toList [] [] where
  shaped :=
    { opening := ⟨"Last".toList, [' '], rfl, .inl (by decide), run_blank⟩
      amount := by
        intro digits blanks h
        obtain ⟨rfl, rfl⟩ := Prod.mk.inj (Option.some.inj h)
        exact ⟨⟨Nat.toDigits_ne_nil, fun c hc => isDecimal_of_mem_toDigits hc⟩, run_blank⟩
      unit := by
        obtain ⟨word, hmem, hspells⟩ := exists_unitWord unit
        exact ⟨_, hmem, hspells⟩
      plural := by
        by_cases h : amount = 1
        · exact .inl (if_pos h)
        · have hs : (labelled amount unit).plural = ['s'] := if_neg h
          rw [hs]
          exact .inr (by decide) }
  text_eq := by rw [text_labelled, List.nil_append, List.append_nil]
  starts := rfl
  ends := rfl

theorem findLookBack_amountLabel (amount : Nat) (unit : TimeUnit) :
    findLookBack none (amountLabel amount unit).toList = some (labelled amount unit) :=
  findLookBack_eq_some_iff.2 ⟨[], [], labelled_stands amount unit, fun _ _ _ _ => Nat.zero_le _⟩

theorem number_labelled (amount : Nat) (unit : TimeUnit) :
    (labelled amount unit).number = amount := by
  rw [LookBack.number, labelled]
  dsimp only
  rw [← Text.valueOfDigits_eq_ofDigits, Text.valueOfDigits_toDigits]

theorem not_misspelt_labelled (amount : Nat) (unit : TimeUnit) :
    ¬(labelled amount unit).Misspelt := by
  have hmarks : '\u0130' ∉ unit.text.toList ∧ '\u0131' ∉ unit.text.toList := by
    cases unit <;> decide
  exact not_or.2 hmarks

theorem parse_amountLabel (h : amount < 10 ^ maxDigits) (unit : TimeUnit) :
    parse (amountLabel amount unit) =
      .ok (some ⟨amountLabel amount unit, Window.descriptor ⟨unit, -amount, .now⟩⟩) := by
  obtain ⟨word, hmem, hspells⟩ := exists_unitWord unit
  have hshort : (Nat.toDigits 10 amount).length ≤ maxDigits :=
    (Nat.length_toDigits_le_iff (by decide) (by decide)).2 h
  have hread := parse_of_findLookBack (findLookBack_amountLabel amount unit) hshort
    (not_misspelt_labelled amount unit) hmem hspells
  rwa [text_labelled, String.ofList_toList, number_labelled] at hread

theorem amountLabel_inj {amount' : Nat} {unit' : TimeUnit} :
    amountLabel amount unit = amountLabel amount' unit' ↔ amount = amount' ∧ unit = unit' := by
  refine ⟨fun h => ?_, fun ⟨hamount, hunit⟩ => by rw [hamount, hunit]⟩
  have hfound := findLookBack_amountLabel amount unit
  rw [h, findLookBack_amountLabel, Option.some.injEq] at hfound
  refine ⟨?_, ?_⟩
  · rw [← number_labelled amount unit, ← hfound, number_labelled]
  · have hword : unit'.text = unit.text := String.toList_injective (congrArg LookBack.unit hfound)
    have hunit := TimeUnit.ofText?_eq_some_iff.2 hword
    rw [TimeUnit.ofText?_eq_some_iff.2 rfl] at hunit
    exact (Option.some.inj hunit).symm

end Phrase

namespace Descriptor

variable {d d' : Descriptor}

theorem findLookBack_label_eq_none (h : d.reference ≠ .now) :
    Phrase.findLookBack none d.label.toList = none := by
  have hall : ∀ s ∈ ["Today", "This Week", "This Month", unknownLabel],
      Phrase.findLookBack none s.toList = none := by
    decide +kernel
  apply hall
  rw [label, if_neg h]
  split_ifs <;> simp

theorem label_ne_of_ne_now (h : d.reference = .now) (h' : d'.reference ≠ .now) :
    d'.label ≠ d.label := by
  intro hsame
  have hnone := findLookBack_label_eq_none h'
  rw [hsame, label_of_now h, Phrase.findLookBack_amountLabel] at hnone
  cases hnone

theorem label_eq_of_now_iff (h : d.reference = .now) : d'.label = d.label ↔
    d'.reference = .now ∧ d'.unit = d.unit ∧ d'.count.natAbs = d.count.natAbs := by
  by_cases h' : d'.reference = .now
  · rw [label_of_now h, label_of_now h', Phrase.amountLabel_inj]
    simp only [h', true_and, and_comm]
  · simp only [h', false_and, iff_false]
    exact label_ne_of_ne_now h h'

end Descriptor

namespace Phrase

open Descriptor (unknownLabel presets)

/-- The label of a window of now is read as the window of the same amount counted backwards, which
is the window itself unless it was counted forwards, and it is the label of no other amount or unit.
-/
theorem parse_label {count : Int} (h : count.natAbs < 10 ^ maxDigits) (unit : TimeUnit)
    (r : Resolver) :
    let d := Window.descriptor ⟨unit, count, .now⟩
    Descriptor.ofValues (.ofText unit.text) (.int count) (.ofText Reference.now.text) = .ok d ∧
    (r.label (.descriptor d)).result = .ok d.label ∧
    parse d.label = .ok (some ⟨d.label, Window.descriptor ⟨unit, -count.natAbs, .now⟩⟩) ∧
    (count ≤ 0 → parse d.label = .ok (some ⟨d.label, d⟩)) ∧
    (∀ preset ∈ presets, ∃ phrase, parse preset.2.label = .ok (some ⟨phrase, preset.2⟩)) ∧
    (∀ d' : Descriptor, d'.label = d.label ↔
      d'.reference = .now ∧ d'.unit = unit ∧ d'.count.natAbs = count.natAbs) ∧
    (∀ preset ∈ presets, preset.2.label ≠ d.label) ∧ d.label ≠ unknownLabel := by
  intro d
  have hnow : d.reference = .now := rfl
  have hread : parse d.label =
      .ok (some ⟨d.label, Window.descriptor ⟨unit, -count.natAbs, .now⟩⟩) := by
    rw [Descriptor.label_of_now hnow]
    exact parse_amountLabel h unit
  have hvalues := Descriptor.ofValues_eq (w := ⟨unit, count, .now⟩) (Text.isWritable_iff.2 h)
  -- This year has no label of its own, so it goes by the one that stands for all the others.
  have hunknown : Descriptor.thisYear.label = unknownLabel := by decide
  have hother := @Descriptor.label_ne_of_ne_now d .thisYear hnow (by decide)
  refine ⟨hvalues, rfl, hread, fun hle => ?_, ?_,
    fun d' => Descriptor.label_eq_of_now_iff hnow, fun preset hmem => ?_, hunknown ▸ hother.symm⟩
  · have hcount : -(count.natAbs : Int) = count := by omega
    rw [hread, hcount]
  · simp only [presets, List.forall_mem_cons]
    exact ⟨⟨"today", by decide +kernel⟩, ⟨"this week", by decide +kernel⟩,
      ⟨"this month", by decide +kernel⟩, List.forall_mem_nil _⟩
  · exact Descriptor.label_ne_of_ne_now hnow (Descriptor.reference_of_mem_presets hmem)

theorem parse_label_minutes :
    (-90 : Int).natAbs < 10 ^ maxDigits ∧
    (Window.descriptor ⟨.min, -90, .now⟩).label = "Last 90 Mins" ∧
    parse (Window.descriptor ⟨.min, -90, .now⟩).label =
      .ok (some ⟨"Last 90 Mins", Window.descriptor ⟨.min, -90, .now⟩⟩) := by
  have hsmall : (-90 : Int).natAbs < 10 ^ maxDigits :=
    Nat.lt_of_lt_of_le (by decide : 90 < 10 ^ 2) (Nat.pow_le_pow_right (by decide) (by decide))
  obtain ⟨-, -, -, hread, -⟩ := parse_label hsmall .min {}
  have hlabel : (Window.descriptor ⟨.min, -90, .now⟩).label = "Last 90 Mins" := by decide
  refine ⟨hsmall, hlabel, ?_⟩
  rw [hread (by decide), hlabel]

end Phrase

end TimeWindow
