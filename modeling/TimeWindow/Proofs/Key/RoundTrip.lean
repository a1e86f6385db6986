import TimeWindow.Options
import TimeWindow.Proofs.Key.Grammar

/-!
Reading what has been written as a key. Any texts may stand in a written key, but only words of the
vocabulary are read, and what is read is what was written. A window is read back from its own key,
so no two windows share one.
-/

namespace TimeWindow

open Json (Literal Value)

theorem countOf_eq {n : Int} (h : Text.isWritable n) : countOf n = .ok n := by
  rw [countOf, if_pos h]

theorem isWritable_of_countOf {m n : Int} (h : countOf m = .ok n) : Text.isWritable n := by
  rw [countOf] at h
  split at h
  · cases h
    assumption
  · cases h

namespace Key

def signedValue (negative : Bool) (digits : List Char) : Int :=
  if negative then -(Text.valueOfDigits digits : Int) else Text.valueOfDigits digits

theorem read_eq_ok_iff {s : String} {w : Window} :
    read s = .ok w ↔ ∃ count negative digits,
      fields s.toList = some (w.unit.text.toList, count, w.reference.text.toList) ∧
      signedDigits count = some (negative, digits) ∧ digits.length ≤ Text.maxDigits ∧
      w.count = signedValue negative digits := by
  constructor
  · intro h
    rw [read] at h
    split at h
    · cases h
    · rename_i u d r hf
      split at h
      · rename_i unit negative digits reference hu hd hr
        split at h
        · cases h
        · rename_i short
          cases h
          have hu := TimeUnit.ofText?_eq_some_iff.1 hu
          have hr := Reference.ofText?_eq_some_iff.1 hr
          refine ⟨d, negative, digits, ?_, hd, Nat.le_of_not_lt short, rfl⟩
          rw [hf, ← hu, ← hr, String.toList_ofList, String.toList_ofList]
      · cases h
  · rintro ⟨count, negative, digits, hf, hd, short, hw⟩
    have hu := TimeUnit.ofText?_eq_some_iff.2 (rfl : w.unit.text = w.unit.text)
    have hr := Reference.ofText?_eq_some_iff.2 (rfl : w.reference.text = w.reference.text)
    rw [read, hf]
    dsimp only
    rw [hd, String.ofList_toList, String.ofList_toList, hu, hr]
    dsimp only
    rw [if_neg (Nat.not_lt.2 short), ← signedValue, ← hw]

theorem isWritable_of_read {s : String} {w : Window} (h : read s = .ok w) :
    Text.isWritable w.count := by
  obtain ⟨count, negative, digits, -, -, short, hw⟩ := read_eq_ok_iff.1 h
  rw [hw]
  exact Text.isWritable_signed short

theorem signedValue_toDigits (n : Int) :
    signedValue (decide (n < 0)) (Nat.toDigits 10 n.natAbs) = n := by
  rw [signedValue, Text.valueOfDigits_toDigits]
  by_cases h : n < 0
  · rw [if_pos (decide_eq_true h)]
    omega
  · rw [if_neg (by simpa using h)]
    omega

theorem close_notMem_unit (unit : TimeUnit) : ')' ∉ unit.text.toList := by
  cases unit <;> decide

theorem close_notMem_reference (reference : Reference) : ')' ∉ reference.text.toList := by
  cases reference <;> decide

theorem read_write_eq_ok_iff {unit reference : String} {count : Int} {w : Window} :
    read (write unit count reference) = .ok w ↔
      unit = w.unit.text ∧ w.count = count ∧ reference = w.reference.text ∧
        Text.isWritable count := by
  have hdigits := signedDigits_integerText count
  rw [read_eq_ok_iff, toList_write]
  constructor
  · rintro ⟨d, negative, digits, hf, hd, short, hw⟩
    obtain ⟨⟨hu, rfl, hr⟩, -⟩ := fields_spelling_eq_some_iff.1 hf
    rw [hdigits] at hd
    cases hd
    rw [signedValue_toDigits] at hw
    exact ⟨(String.toList_injective hu).symm, hw, (String.toList_injective hr).symm,
      decide_eq_true short⟩
  · rintro ⟨rfl, hw, rfl, short⟩
    have hf := fields_spelling (close_notMem_unit w.unit) (close_notMem_integerText count)
      (close_notMem_reference w.reference)
    exact ⟨_, _, _, hf, hdigits, of_decide_eq_true short, by rw [hw, signedValue_toDigits]⟩

theorem read_key {w : Window} (h : Text.isWritable w.count) : read w.key = .ok w :=
  read_write_eq_ok_iff.2 ⟨rfl, rfl, rfl, h⟩

theorem displayed_eq_error_iff {v : Value} {e : CountError} :
    displayed v = .error e ↔ v.writable = false ∧ e = .unwritable := by
  rw [displayed]
  cases v.writable <;> simp [eq_comm]

theorem decode_eq_ok_iff {v : Value} {w : Window} :
    decode v = .ok w ↔ ∃ s, v = .string (.text s) ∧ read s = .ok w := by
  constructor
  · intro h
    unfold decode at h
    split at h
    · split at h
      · cases h
        exact ⟨_, rfl, by assumption⟩
      · cases h
      · cases h
    · split at h <;> cases h
  · rintro ⟨s, rfl, h⟩
    rw [decode, h]

theorem decode_reported {v : Value} {d : Diagnostic} (h : decode v = .error (.reported d)) :
    d.code = "relative_time.decode_failed" ∧ d.context = [(.text "key", v)] := by
  unfold decode at h
  split at h
  · split at h
    · cases h
    · cases h
      exact ⟨rfl, rfl⟩
    · cases h
      exact ⟨rfl, rfl⟩
  · split at h
    · cases h
      exact ⟨rfl, rfl⟩
    · cases h

theorem decode_failed_iff {v : Value} {e : CountError} :
    decode v = .error (.failed e) ↔ v.writable = false ∧ e = .unwritable := by
  rw [← displayed_eq_error_iff]
  unfold decode
  split
  · rename_i s
    have shown : displayed (.string (.text s)) = .ok (Value.string (.text s)).shown := rfl
    rw [shown]
    split <;> simp
  · split <;> simp_all

theorem decode_text_cases (s : Literal) :
    (∃ w, decode (.string s) = .ok w) ∨ ∃ d, decode (.string s) = .error (.reported d) := by
  cases h : decode (.string s) with
  | ok w => exact .inl ⟨w, rfl⟩
  | error refusal =>
    cases refusal with
    | reported d => exact .inr ⟨d, rfl⟩
    | failed e => exact absurd (decode_failed_iff.1 h).1 (by simp [Value.writable])

theorem isWritable_of_decode {v : Value} {w : Window} (h : decode v = .ok w) :
    Text.isWritable w.count := by
  obtain ⟨s, -, hs⟩ := decode_eq_ok_iff.1 h
  exact isWritable_of_read hs

theorem spell_eq_text_iff {unit reference : Literal} {count : Int} {s : String} :
    spell unit count reference = .text s ↔
      ∃ u r, unit = .text u ∧ reference = .text r ∧ s = write u count r := by
  constructor
  · intro h
    cases unit with
    | broken points => cases h
    | text u =>
      cases reference with
      | broken points => cases h
      | text r =>
        have hs := (spell_text u count r).symm.trans h
        cases hs
        exact ⟨u, r, rfl, rfl, rfl⟩
  · rintro ⟨u, r, rfl, rfl, rfl⟩
    exact spell_text u count r

theorem decode_spell_eq_ok_iff {unit reference : Literal} {count : Int} {w : Window} :
    decode (.string (spell unit count reference)) = .ok w ↔
      unit = w.unit.text ∧ w.count = count ∧ reference = w.reference.text ∧
        Text.isWritable count := by
  rw [decode_eq_ok_iff]
  constructor
  · rintro ⟨s, hs, h⟩
    obtain ⟨u, r, rfl, rfl, rfl⟩ := spell_eq_text_iff.1 (Value.string.inj hs)
    obtain ⟨rfl, hw, rfl, short⟩ := read_write_eq_ok_iff.1 h
    exact ⟨rfl, hw, rfl, short⟩
  · rintro ⟨rfl, hw, rfl, short⟩
    exact ⟨_, congrArg Value.string (spell_text _ _ _),
      read_write_eq_ok_iff.2 ⟨rfl, hw, rfl, short⟩⟩

theorem decode_key {w : Window} (h : Text.isWritable w.count) :
    decode (.string w.key) = .ok w :=
  decode_eq_ok_iff.2 ⟨w.key, rfl, read_key h⟩

theorem key_injective {w v : Window} (h : w.key = v.key) : w = v := by
  have same : (write w.unit.text w.count w.reference.text).toList =
      (write v.unit.text v.count v.reference.text).toList := congrArg String.toList h
  have hw := fields_spelling (close_notMem_unit w.unit) (close_notMem_integerText w.count)
    (close_notMem_reference w.reference)
  have hv := fields_spelling (close_notMem_unit v.unit) (close_notMem_integerText v.count)
    (close_notMem_reference v.reference)
  rw [toList_write, toList_write] at same
  rw [same, hv] at hw
  simp only [Option.some.injEq, Prod.mk.injEq] at hw
  obtain ⟨hunit, hcount, href⟩ := hw
  have hu := TimeUnit.ofText?_eq_some_iff.2 (String.toList_injective hunit)
  have hr := Reference.ofText?_eq_some_iff.2 (String.toList_injective href)
  rw [TimeUnit.ofText?_eq_some_iff.2 rfl] at hu
  rw [Reference.ofText?_eq_some_iff.2 rfl] at hr
  have hd := congrArg signedDigits hcount
  rw [signedDigits_integerText, signedDigits_integerText] at hd
  simp only [Option.some.injEq, Prod.mk.injEq] at hd
  have hc := signedValue_toDigits v.count
  rw [hd.1, hd.2, signedValue_toDigits] at hc
  cases w
  cases v
  simp_all

/-- A key that is spelled from any two strings and a count is the key of a window exactly if the
strings are words of the vocabulary, and then of the window with these words and this count. -/
theorem decode_spelled_key {count : Int} (short : count.natAbs < 10 ^ Text.maxDigits) :
    (∀ (unit reference : Literal) (w : Window),
      decode (.string (spell unit count reference)) = .ok w ↔
        unit = w.unit.text ∧ w.count = count ∧ reference = w.reference.text) ∧
    (∀ (unit : TimeUnit) (reference : Reference),
      decode (.string (Window.key ⟨unit, count, reference⟩)) = .ok ⟨unit, count, reference⟩) ∧
    ∀ w v : Window, w.key = v.key → w = v := by
  have writable : Text.isWritable count := Text.isWritable_iff.2 short
  refine ⟨fun unit reference w => ?_, fun unit reference => decode_key writable,
    fun w v h => key_injective h⟩
  rw [decode_spell_eq_ok_iff]
  constructor
  · rintro ⟨hu, hc, hr, -⟩
    exact ⟨hu, hc, hr⟩
  · rintro ⟨hu, hc, hr⟩
    exact ⟨hu, hc, hr, writable⟩

theorem decode_spelled_key_second_count :
    (-12 : Int).natAbs < 10 ^ Text.maxDigits ∧
    decode (.string (spell "Day" (-12) "now")) = .ok ⟨.day, -12, .now⟩ ∧
    ∀ w, decode (.string (spell "Day)&count=(5" (-12) "now")) ≠ .ok w := by
  have short : (-12 : Int).natAbs < 10 ^ Text.maxDigits := by decide +kernel
  have exact_words := (decode_spelled_key short).1
  refine ⟨short, (exact_words "Day" "now" ⟨.day, -12, .now⟩).2 ⟨rfl, rfl, rfl⟩, ?_⟩
  intro w h
  obtain ⟨hu, -, -⟩ := (exact_words _ _ w).1 h
  cases hw : w.unit <;> rw [hw] at hu <;> simp [TimeUnit.text] at hu

end Key

def Target.writable : Target → Bool
  | .key v => v.writable
  | .descriptor _ => true

@[simp]
theorem Target.writable_text (s : Literal) : (Target.key (.string s)).writable = true := rfl

namespace Options

variable (o : Options)

theorem descriptor_of_read {s : String} {w : Window} (h : Key.read s = .ok w) :
    o.descriptor (.key (.ofText s)) = .ok ({ w with key := s }, []) := by
  have hdecode : Key.decode (.ofText s) = .ok w := Key.decode_eq_ok_iff.2 ⟨s, rfl, h⟩
  rw [descriptor, parse, hdecode]
  rfl

theorem exists_descriptor {target : Target} (h : target.writable = true) :
    ∃ d ds, o.descriptor target = .ok (d, ds) := by
  cases target with
  | descriptor d => exact ⟨d, [], rfl⟩
  | key key =>
    rw [descriptor, parse]
    rcases hdecode : Key.decode key with (d | e) | w
    · exact ⟨_, _, rfl⟩
    · cases (Key.decode_failed_iff.1 hdecode).1.symm.trans h
    · exact ⟨_, _, rfl⟩

theorem descriptor_of_unwritable {target : Target} (h : target.writable = false) :
    o.descriptor target = .error .unwritable := by
  cases target with
  | descriptor d => cases h
  | key key => rw [descriptor, parse, Key.decode_failed_iff.2 ⟨h, rfl⟩]

end Options

end TimeWindow
