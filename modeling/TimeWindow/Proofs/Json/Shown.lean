import TimeWindow.Proofs.Key.Grammar

/-!
Values that are shown in words. A number is shown in digits and a few signs, an array or an object
within brackets, and what else is no string has a word of its own. A word that is told apart from
all these, as each word of the vocabulary is, can only be a string.
-/

namespace TimeWindow

def words : List String :=
  TimeUnit.all.map TimeUnit.text ++ Reference.all.map Reference.text

theorem TimeUnit.text_mem_words (unit : TimeUnit) : unit.text ∈ words := by
  cases unit <;> decide

theorem Reference.text_mem_words (reference : Reference) : reference.text ∈ words := by
  cases reference <;> decide

def isNumeric (c : Char) : Bool :=
  c.isDigit || ['-', '+', '.', 'e'].contains c

/-- A word that nothing but a string is shown as. -/
structure StandsOut (word : String) : Prop where
  not_numeric : ¬word.toList.all isNumeric
  not_bracketed : word.toList.head? ∉ [some '[', some '\x7b']
  not_reserved : word ∉ ["None", "True", "False", "inf", "-inf", "nan"]

instance (word : String) : Decidable (StandsOut word) :=
  decidable_of_iff (¬word.toList.all isNumeric ∧ word.toList.head? ∉ [some '[', some '\x7b'] ∧
      word ∉ ["None", "True", "False", "inf", "-inf", "nan"])
    ⟨fun ⟨hn, hb, hr⟩ => ⟨hn, hb, hr⟩, fun ⟨hn, hb, hr⟩ => ⟨hn, hb, hr⟩⟩

theorem standsOut_of_mem_words : ∀ word ∈ words, StandsOut word := by
  decide

theorem isNumeric_of_isDigit {c : Char} (h : c.isDigit) : isNumeric c := by
  rw [isNumeric, h, Bool.true_or]

theorem Text.isNumeric_of_mem_integerText {n : Int} {c : Char} (h : c ∈ (integerText n).toList) :
    isNumeric c := by
  rcases isDigit_or_minus_of_mem h with hdigit | rfl
  · exact isNumeric_of_isDigit hdigit
  · decide

namespace Number.Floating

variable {c : Char} {digits : List Char} {word : String}

theorem mem_dropZeros (h : c ∈ dropZeros digits) : c ∈ digits := by
  rw [dropZeros, List.mem_reverse] at h
  exact List.mem_reverse.1 ((List.dropWhile_sublist _).subset h)

theorem isNumeric_of_mem_zeros {n : Nat} (h : c ∈ List.replicate n '0') : isNumeric c := by
  rw [List.eq_of_mem_replicate h]
  decide

theorem isNumeric_of_mem_pointed {point : Int} (hdigits : ∀ c ∈ digits, isNumeric c)
    (h : c ∈ pointed digits point) : isNumeric c := by
  rw [pointed] at h
  split at h
  · simp only [List.mem_cons, List.mem_append, or_assoc] at h
    rcases h with rfl | rfl | hzeros | hc
    · decide
    · decide
    · exact isNumeric_of_mem_zeros hzeros
    · exact hdigits c hc
  · dsimp only at h
    split at h
    · simp only [List.mem_append, List.mem_cons, List.not_mem_nil, or_false, or_assoc] at h
      rcases h with hc | hzeros | rfl | rfl
      · exact hdigits c hc
      · exact isNumeric_of_mem_zeros hzeros
      · decide
      · decide
    · simp only [List.mem_append, List.mem_cons] at h
      rcases h with hc | rfl | hc
      · exact hdigits c (List.mem_of_mem_take hc)
      · decide
      · exact hdigits c (List.mem_of_mem_drop hc)

theorem isNumeric_of_mem_scientific {power : Int} (hdigits : ∀ c ∈ digits, isNumeric c)
    (h : c ∈ scientific digits power) : isNumeric c := by
  have hpower : c ∈ Nat.toDigits 10 power.natAbs → isNumeric c := fun hc =>
    isNumeric_of_isDigit (Text.isDigit_of_mem_digits hc)
  unfold scientific at h
  simp only [List.mem_append, List.mem_cons] at h
  rcases h with hhead | rfl | hsign | hzeros | hc
  · split at hhead
    · cases hhead
    · exact hdigits c hhead
    · rename_i d rest _
      rcases List.mem_cons.1 hhead with rfl | hrest
      · exact hdigits c List.mem_cons_self
      · rcases List.mem_cons.1 hrest with rfl | hrest
        · decide
        · exact hdigits c (List.mem_cons_of_mem d hrest)
  · decide
  · rw [hsign]
    split <;> decide
  · exact isNumeric_of_mem_zeros hzeros
  · exact hpower hc

theorem isNumeric_of_mem_magnitudeText {m : Binary} (h : c ∈ magnitudeText m) : isNumeric c := by
  rw [magnitudeText] at h
  split at h
  · simp only [List.mem_cons, List.not_mem_nil, or_false] at h
    rcases h with rfl | rfl | rfl <;> decide
  · have hdigits : ∀ c ∈ dropZeros (Nat.toDigits 10 (Decimal.shortest m).digits), isNumeric c :=
      fun c hc => isNumeric_of_isDigit (Text.isDigit_of_mem_digits (mem_dropZeros hc))
    dsimp only at h
    split at h
    · exact isNumeric_of_mem_pointed hdigits h
    · exact isNumeric_of_mem_scientific hdigits h

theorem text_ne_of_standsOut (hword : StandsOut word) (x : Floating) :
    x.text "inf" "nan" ≠ word := by
  rintro rfl
  cases x with
  | notANumber => exact hword.not_reserved (by decide)
  | infinite negative => cases negative <;> exact hword.not_reserved (by decide)
  | finite negative m =>
    refine hword.not_numeric (List.all_eq_true.2 fun c hc => ?_)
    simp only [text, String.toList_ofList] at hc
    split at hc
    · rcases List.mem_cons.1 hc with rfl | hc
      · decide
      · exact isNumeric_of_mem_magnitudeText hc
    · exact isNumeric_of_mem_magnitudeText hc

end Number.Floating

namespace Json

variable {v : Value} {word : String}

theorem bracketed_ne_of_standsOut {opening : String} (hopening : opening = "[" ∨ opening = "\x7b")
    (hword : StandsOut word) (rest : String) : opening ++ rest ≠ word := by
  rintro rfl
  rcases hopening with rfl | rfl
  · exact hword.not_bracketed (by simp)
  · exact hword.not_bracketed (by simp)

theorem Value.shown_ne_of_standsOut (hword : StandsOut word) (h : ∀ s, v ≠ .string s) :
    v.shown ≠ word := by
  cases v with
  | null =>
    rintro rfl
    exact hword.not_reserved (by decide)
  | bool b =>
    rintro rfl
    cases b <;> exact hword.not_reserved (by decide)
  | int n =>
    rintro rfl
    exact hword.not_numeric (List.all_eq_true.2 fun c => Text.isNumeric_of_mem_integerText)
  | real x =>
    rw [shown]
    exact x.text_ne_of_standsOut hword
  | string s => exact absurd rfl (h s)
  | array items =>
    rw [shown, String.append_assoc]
    exact bracketed_ne_of_standsOut (.inl rfl) hword _
  | object fields =>
    rw [shown, String.append_assoc]
    exact bracketed_ne_of_standsOut (.inr rfl) hword _

theorem Value.plain_eq_text_iff (hword : StandsOut word) :
    v.plain = .text word ↔ v = .ofText word := by
  constructor
  · intro h
    cases v with
    | string s =>
      cases h
      rfl
    | _ => exact absurd (Literal.text.inj h) (shown_ne_of_standsOut hword nofun)
  · rintro rfl
    rfl

end Json

end TimeWindow
