import TimeWindow.Proofs.Json.Whole
import TimeWindow.Proofs.Key.RoundTrip
import TimeWindow.Resolver

/-!
Which texts are keys, said without the reader. A key is three words of fixed spelling around a unit,
a numeral and a reference. The numeral may begin with zeros, so several keys stand for one window,
of which exactly one has the numeral as it is written.
-/

namespace TimeWindow

open Json (Value)

namespace Key

structure Numeral where
  negative : Bool
  digits : List Char
  digits_ne_nil : digits ≠ []
  isDigit_of_mem : ∀ c ∈ digits, c.isDigit

namespace Numeral

def text (n : Numeral) : String :=
  (if n.negative then "-" else "") ++ String.ofList n.digits

def value (n : Numeral) : Int :=
  let magnitude : Int := Nat.ofDigitChars 10 n.digits 0
  if n.negative then -magnitude else magnitude

def Canonical (n : Numeral) : Prop :=
  n.digits.head? = some '0' → n.digits = ['0'] ∧ n.negative = false

/-- A key is spelled with the words of a window and a numeral that comes to its count. -/
structure Spells (n : Numeral) (key : Value) (w : Window) : Prop where
  key_eq : key = .ofText ("unit=(" ++ w.unit.text ++ ")&count=(" ++ n.text ++
    ")&referenceTime=(" ++ w.reference.text ++ ")")
  length_le : n.digits.length ≤ Text.maxDigits
  count_eq : w.count = n.value

theorem toList_text (n : Numeral) :
    n.text.toList = if n.negative then '-' :: n.digits else n.digits := by
  rw [text]
  split <;> simp

theorem value_eq_signedValue (n : Numeral) : n.value = signedValue n.negative n.digits := by
  rw [value, signedValue, Text.valueOfDigits_eq_ofDigitChars n.isDigit_of_mem]

theorem signedDigits_text (n : Numeral) :
    signedDigits n.text.toList = some (n.negative, n.digits) := by
  have hne := n.digits_ne_nil
  have hall : n.digits.all Char.isDigit = true := List.all_eq_true.2 n.isDigit_of_mem
  rw [toList_text]
  cases hsign : n.negative with
  | true => simp [signedDigits, hne, hall]
  | false =>
    cases hdigits : n.digits with
    | nil => exact absurd hdigits hne
    | cons c rest =>
      have hc : c ≠ '-' := by
        rintro rfl
        exact absurd (n.isDigit_of_mem '-' (hdigits ▸ List.mem_cons_self)) (by decide)
      rw [hdigits] at hall
      simp [signedDigits, hc, hall]

theorem eq_text_of_signedDigits {cs digits : List Char} {negative : Bool}
    (h : signedDigits cs = some (negative, digits)) :
    ∃ n : Numeral, n.negative = negative ∧ n.digits = digits ∧ n.text.toList = cs := by
  unfold signedDigits at h
  split at h
  rename_i sign run hsplit
  split at h
  · rename_i hrun
    cases h
    rw [Bool.and_eq_true, Bool.not_eq_true', List.isEmpty_eq_false_iff, List.all_eq_true] at hrun
    refine ⟨⟨negative, digits, hrun.1, hrun.2⟩, rfl, rfl, ?_⟩
    rw [toList_text]
    split at hsplit
    · cases hsplit
      rfl
    · cases hsplit
      rfl
  · cases h

theorem integerText_value_eq_iff (n : Numeral) :
    Text.integerText n.value = n.text ↔ n.Canonical := by
  have hdigits := Text.toDigits_ofDigitChars_eq_iff n.digits_ne_nil n.isDigit_of_mem
  rw [← String.toList_inj, Text.toList_integerText, toList_text, Canonical, value]
  generalize Nat.ofDigitChars 10 n.digits 0 = magnitude at hdigits
  cases n.negative with
  | false =>
    rw [if_neg (by simp), if_neg (by simp)]
    simpa using hdigits
  | true =>
    rcases Nat.eq_zero_or_pos magnitude with rfl | hpos
    · -- A zero has no sign when it is written.
      have hhead : n.digits.head? = some '0' := by
        by_contra hne
        rw [← hdigits.2 fun h => absurd h hne] at hne
        exact hne rfl
      simp [hhead]
    · have hlong : n.digits ≠ ['0'] := by
        intro hone
        rw [hone] at hdigits
        have hvalue := congrArg (Nat.ofDigitChars 10 · 0) (hdigits.2 fun _ => rfl)
        rw [Nat.ofDigitChars_ten_toDigits] at hvalue
        exact Nat.ne_of_gt hpos hvalue
      rw [if_pos (by simpa using hpos), if_pos rfl]
      simpa [hlong] using hdigits

theorem close_notMem_text (n : Numeral) : ')' ∉ n.text.toList := by
  have hdigits : ')' ∉ n.digits := fun h => absurd (n.isDigit_of_mem ')' h) (by decide)
  rw [toList_text]
  split <;> simp [hdigits]

theorem fields_text (n : Numeral) (unit : TimeUnit) (reference : Reference) :
    fields (spelling unit.text.toList n.text.toList reference.text.toList) =
      some (unit.text.toList, n.text.toList, reference.text.toList) :=
  fields_spelling (close_notMem_unit unit) n.close_notMem_text (close_notMem_reference reference)

end Numeral

theorem decode_eq_ok_iff_spells {key : Value} {w : Window} :
    decode key = .ok w ↔ ∃ n : Numeral, n.Spells key w := by
  rw [decode_eq_ok_iff]
  constructor
  · rintro ⟨s, rfl, h⟩
    obtain ⟨count, negative, digits, hf, hd, short, hw⟩ := read_eq_ok_iff.1 h
    obtain ⟨n, rfl, rfl, rfl⟩ := Numeral.eq_text_of_signedDigits hd
    refine ⟨n, congrArg Value.ofText ?_, short, hw.trans n.value_eq_signedValue.symm⟩
    apply String.toList_injective
    rw [toList_spelled]
    exact (eq_spelling_of_fields hf).1
  · rintro ⟨n, rfl, short, hw⟩
    refine ⟨_, rfl, read_eq_ok_iff.2 ⟨_, _, _, ?_, n.signedDigits_text, short, ?_⟩⟩
    · rw [toList_spelled]
      exact n.fields_text w.unit w.reference
    · rw [hw, n.value_eq_signedValue]

theorem Numeral.Spells.key_eq_iff {n : Numeral} {key : Value} {w : Window} (h : n.Spells key w) :
    .ofText w.key = key ↔ n.Canonical := by
  rw [← n.integerText_value_eq_iff, ← h.count_eq, h.key_eq]
  constructor
  · intro hsame
    have htext : w.key = _ := Json.Literal.text.inj (Value.string.inj hsame)
    have hlist := congrArg String.toList htext
    rw [toList_spelled, Window.key, toList_write] at hlist
    have hfields := n.fields_text w.unit w.reference
    rw [← hlist, fields_spelling (close_notMem_unit w.unit) (close_notMem_integerText w.count)
      (close_notMem_reference w.reference)] at hfields
    exact String.toList_injective (by simpa using hfields)
  · intro hsame
    rw [← hsame]
    rfl

/-- Exactly the texts that are spelled with words of the vocabulary and a numeral that is not too
long are keys. What is no key is reported, unless there is a number in it that is too long to be
shown; that is no string, and it fails. -/
theorem decode_exactly_spelled (sink : Sink) (key : Value) :
    (∀ w, (window? sink key).result = .ok (some w) ↔ ∃ n : Numeral, n.Spells key w) ∧
    (∀ (n : Numeral) (w : Window), n.Spells key w →
      window? sink key = { result := .ok (some w) } ∧
      decode (.ofText w.key) = .ok w ∧ (.ofText w.key = key ↔ n.Canonical)) ∧
    (key.writable = true → (∀ (n : Numeral) (w : Window), ¬n.Spells key w) → ∃ d : Diagnostic,
      window? sink key = { result := .ok none, events := sink.report [d] } ∧
      d.code = "relative_time.decode_failed" ∧ d.context = [(.text "key", key)]) ∧
    (key.writable = false →
      (∀ s, key ≠ .string s) ∧ window? sink key = { result := .error (.count .unwritable) }) := by
  refine ⟨fun w => ?_, fun n w h => ?_, fun hwritable hnone => ?_, fun hwritable => ⟨?_, ?_⟩⟩
  · rw [← decode_eq_ok_iff_spells, window?]
    rcases decode key with (d | e) | v <;> simp
  · have hdecode := decode_eq_ok_iff_spells.2 ⟨n, h⟩
    refine ⟨by rw [window?, hdecode], decode_key (isWritable_of_decode hdecode), h.key_eq_iff⟩
  · rcases hdecode : decode key with (d | e) | w
    · exact ⟨d, by rw [window?, hdecode], decode_reported hdecode⟩
    · rw [(decode_failed_iff.1 hdecode).1] at hwritable
      cases hwritable
    · obtain ⟨n, h⟩ := decode_eq_ok_iff_spells.1 hdecode
      exact absurd h (hnone n w)
  · rintro s rfl
    cases hwritable
  · rw [window?, decode_failed_iff.2 ⟨hwritable, rfl⟩]

theorem decode_exactly_spelled_leading_zeros :
    let key := Value.ofText "unit=(Day)&count=(-007)&referenceTime=(now)"
    let w : Window := ⟨.day, -7, .now⟩
    window? .log key = { result := .ok (some w) } ∧ decode (.ofText w.key) = .ok w ∧
      .ofText w.key ≠ key := by
  intro key w
  let n : Numeral := ⟨true, ['0', '0', '7'], by decide, by simp⟩
  have hkey : n.Spells key w := ⟨congrArg Value.ofText (by decide), by decide, by decide⟩
  obtain ⟨hwindow, hagain, hsame⟩ := (decode_exactly_spelled .log key).2.1 n w hkey
  refine ⟨hwindow, hagain, fun h => ?_⟩
  have hdigits := (hsame.1 h (by decide)).1
  exact absurd hdigits (by decide)

/-- The smallest number that is too long is no key, and nothing is reported. -/
theorem decode_fails_on_long_number :
    (∀ (n : Numeral) (w : Window), ¬n.Spells (.int (10 ^ 4300)) w) ∧
    window? .asker (.int (10 ^ 4300)) = { result := .error (.count .unwritable) } := by
  refine ⟨fun n w h => absurd h.key_eq nofun, ?_⟩
  rw [window?, decode_failed_iff.2 ⟨Value.not_writable_long, rfl⟩]

end Key

end TimeWindow
