import TimeWindow.Normalization
import TimeWindow.Proofs.Failing
import TimeWindow.Proofs.Key.RoundTrip

/-!
Descriptors and their keys. A descriptor resolves by its window and is kept and compared by its key,
so the key must be read as just that window. This holds of every descriptor that the library hands
out, by whichever way it came about: the key of a window is read back, a key that was read stays
with its window, and a numeral that has been read can be written.
-/

namespace TimeWindow

open Json (Literal Value)

namespace Descriptor

/-- The key of a descriptor is read as its window. -/
def Faithful (d : Descriptor) : Prop :=
  Key.decode (.string d.key) = .ok d.toWindow

theorem faithful_of_window {w : Window} (h : Text.isWritable w.count) : w.descriptor.Faithful :=
  Key.decode_key h

theorem eq_of_sameKey {d e : Descriptor} (hd : d.Faithful) (he : e.Faithful)
    (h : d.sameKey e) : d = e := by
  have hkey : d.key = e.key := of_decide_eq_true h
  have hwindow : (.ok d.toWindow : Except Key.Refusal Window) = .ok e.toWindow := by
    rw [← hd, ← he, hkey]
  cases d
  cases e
  simp_all

theorem ofValues_eq {w : Window} (h : Text.isWritable w.count) :
    ofValues (.ofText w.unit.text) (.int w.count) (.ofText w.reference.text) = .ok w.descriptor := by
  have hunit : TimeUnit.ofValue (.ofText w.unit.text) = .ok w.unit := by
    cases w.unit <;> rfl
  have hreference : Reference.ofValue (.ofText w.reference.text) = .ok w.reference := by
    cases w.reference <;> rfl
  rw [ofValues, hunit, hreference, countOfValue, countOf_eq h]
  rfl

theorem isWritable_of_countOfValue {v : Value} {n : Int} (h : countOfValue v = .ok n) :
    Text.isWritable n := by
  unfold countOfValue at h
  split at h
  case h_1 => exact isWritable_of_countOf h
  case h_2 b =>
    cases h
    cases b <;> decide
  case h_5 => exact isWritable_of_countOf h
  case h_6 => exact Text.isWritable_of_readInteger (Except.mapError_eq_ok_iff.1 h)
  all_goals cases h

theorem faithful_of_values {unit count reference : Value} {d : Descriptor}
    (h : ofValues unit count reference = .ok d) : d.Faithful := by
  obtain ⟨u, -, h⟩ := Except.bind_eq_ok_iff.1 h
  obtain ⟨r, -, h⟩ := Except.bind_eq_ok_iff.1 h
  obtain ⟨c, hc, h⟩ := Except.bind_eq_ok_iff.1 h
  cases h
  exact faithful_of_window (w := ⟨u, c, r⟩)
    (isWritable_of_countOfValue (Except.mapError_eq_ok_iff.1 hc))

theorem faithful_of_mem_presets {name : String} {d : Descriptor} (h : (name, d) ∈ presets) :
    d.Faithful := by
  simp only [presets, List.mem_cons, Prod.mk.injEq, List.not_mem_nil, or_false] at h
  rcases h with ⟨-, rfl⟩ | ⟨-, rfl⟩ | ⟨-, rfl⟩
  · exact faithful_of_window (by decide)
  · exact faithful_of_window (by decide)
  · exact faithful_of_window (by decide)

theorem parse_cases {o : Options} {key : Value} {d : Descriptor} {ds : List Diagnostic}
    (h : o.parse key = .ok (d, ds)) :
    d = o.fallback ∨ ∃ s w, Key.read s = .ok w ∧ d = { w with key := s } := by
  rw [Options.parse] at h
  split at h
  · rename_i hdecode
    obtain ⟨s, rfl, hs⟩ := Key.decode_eq_ok_iff.1 hdecode
    cases h
    exact .inr ⟨s, _, hs, rfl⟩
  · cases h
    exact .inl rfl
  · cases h

theorem faithful_of_parse {o : Options} {key : Value} {d : Descriptor} {ds : List Diagnostic}
    (hfallback : o.fallback.Faithful) (h : o.parse key = .ok (d, ds)) : d.Faithful := by
  obtain rfl | ⟨s, w, hs, rfl⟩ := parse_cases h
  · exact hfallback
  · exact Key.decode_eq_ok_iff.2 ⟨s, rfl, hs⟩

theorem faithful_of_phrase {text : String} {f : Phrase.Found}
    (h : Phrase.parse text = .ok (some f)) : f.descriptor.Faithful := by
  rw [Phrase.parse] at h
  split at h
  · rename_i p _
    obtain ⟨found, hp, hf⟩ := Except.map_eq_ok_iff.1 h
    cases hf
    obtain ⟨n, hn, hp⟩ := Except.bind_eq_ok_iff.1 hp
    obtain ⟨unit, -, hp⟩ := Except.bind_eq_ok_iff.1 hp
    cases hp
    have writable : Text.isWritable n := by
      have hn := Except.mapError_eq_ok_iff.1 hn
      rw [Phrase.LookBack.count] at hn
      split at hn
      · cases hn
        decide
      · exact Text.isWritable_of_readInteger hn
    exact faithful_of_window (w := ⟨unit, -n, .now⟩) (Text.isWritable_neg.trans writable)
  · simp only [Except.ok.injEq] at h
    have hmem : f ∈ Phrase.fixed := List.mem_of_find?_eq_some h
    simp only [Phrase.fixed, List.mem_cons, List.not_mem_nil, or_false] at hmem
    rcases hmem with rfl | rfl | rfl | rfl
    · exact faithful_of_window (by decide)
    · exact faithful_of_window (by decide)
    · exact faithful_of_window (by decide)
    · exact faithful_of_window (by decide)

theorem isWritable_of_completed {completed : Value} {w : Window} {ds : List Diagnostic}
    (h : Completion.window completed = .ok (.ok w, ds)) : Text.isWritable w.count := by
  rw [Completion.window] at h
  split at h
  · cases h
  · obtain ⟨unit, -, h⟩ := Except.bind_eq_ok_iff.1 h
    obtain ⟨reference, -, h⟩ := Except.bind_eq_ok_iff.1 h
    obtain ⟨count, -, h⟩ := Except.bind_eq_ok_iff.1 h
    split at h
    · obtain ⟨n, hn, h⟩ := Except.bind_eq_ok_iff.1 h
      cases h
      exact isWritable_of_countOf hn
    · cases h
    · cases h

theorem isWritable_of_judge {reply : Reply} {w : Window} {ds : List Diagnostic}
    (h : Completion.judge reply = .ok (.ok w, ds)) : Text.isWritable w.count := by
  rw [Completion.judge] at h
  split at h
  · cases h
  · dsimp only at h
    split at h
    · exact isWritable_of_completed h
    · cases h

theorem isWritable_of_ask {attempts : Nat} {replies : List Reply} {w : Window}
    (h : (Completion.ask attempts replies).window = .ok (some w)) : Text.isWritable w.count := by
  induction attempts generalizing replies with
  | zero => cases h
  | succ attempts ih =>
    rw [Completion.ask] at h
    split at h
    · rename_i hj
      cases h
      exact isWritable_of_judge hj
    · exact ih h
    · cases h

theorem faithful_of_completion {env : Environment} {client : Option Client} {w : Window}
    (h : (Completion.run env client).window = .ok (some w)) : w.descriptor.Faithful := by
  unfold Completion.run at h
  split at h
  · cases h
  · split at h
    · exact faithful_of_window (isWritable_of_ask h)
    · cases h
  · cases h

theorem faithful_of_fallback {text : String} {d : Descriptor}
    (h : Settings.fallbackOf text = .ok d) : d.Faithful := by
  rw [Settings.fallbackOf] at h
  split at h
  · cases h
    exact faithful_of_window (by decide)
  · split at h
    · exact faithful_of_values (Except.mapError_eq_ok_iff.1 h)
    · cases h
    · cases h

theorem faithful_of_settings {env : Environment} {d : Descriptor} {ds : List Diagnostic}
    (h : Settings.fallback env = .ok (d, ds)) : d.Faithful := by
  have today_faithful : Descriptor.today.Faithful := faithful_of_window (by decide)
  simp only [Settings.fallback, Settings.setting] at h
  split at h
  · cases h
    exact today_faithful
  · split at h
    · rename_i hd
      cases h
      exact faithful_of_fallback hd
    · split at h
      · cases h
        exact today_faithful
      · cases h

end Descriptor

end TimeWindow
