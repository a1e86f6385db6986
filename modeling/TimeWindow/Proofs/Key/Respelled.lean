import TimeWindow.Proofs.Key.Produced

/-!
Keys that say the same. A window may be spelled with leading zeros or a minus before zero, and a
descriptor goes by the spelling that was read. The range of a window does not depend on it and
neither does the label of a window of now; the presets, however, are told by their keys, so a preset
that is spelled otherwise has no label of its own.
-/

namespace TimeWindow

open Calendar (Moment)
open Json (Value)

namespace Options

variable (w : Window) (s s' : String) (now : Moment)

theorem offsetMoment_respelled :
    (offsetMoment ⟨w, s⟩ now).1 = (offsetMoment ⟨w, s'⟩ now).1 := by
  simp only [offsetMoment]
  cases now.back w.count w.unit <;> rfl

theorem resolveAt_respelled (o : Options) :
    (o.resolveAt ⟨w, s⟩ now).1 = (o.resolveAt ⟨w, s'⟩ now).1 := by
  simp only [resolveAt, offsetMoment_respelled w s s' now]
  cases (o.referenceMoment w.reference now).bind Moment.epochMillis <;> rfl

end Options

namespace Descriptor

variable {d d' : Descriptor} {preset : String × Descriptor}

theorem reference_of_mem_presets (h : preset ∈ presets) : preset.2.reference ≠ .now := by
  have hall : ∀ preset ∈ presets, preset.2.reference ≠ .now := by decide
  exact hall preset h

theorem label_of_now (h : d.reference = .now) : d.label = amountLabel d.count.natAbs d.unit := by
  rw [label, if_pos h]

theorem label_eq_of_sameKey (h : d.reference ≠ .now) (h' : d'.reference ≠ .now)
    (hkey : d.key = d'.key) : d.label = d'.label := by
  rw [label, label, if_neg h, if_neg h', hkey]

theorem label_eq_unknown (h : d.reference ≠ .now)
    (hkey : ∀ preset ∈ presets, d.key ≠ preset.2.key) : d.label = unknownLabel := by
  simp only [presets, List.forall_mem_cons] at hkey
  rw [label, if_neg h, if_neg hkey.1, if_neg hkey.2.1, if_neg hkey.2.2.1]

theorem label_eq_preset_iff (h : d.reference ≠ .now) (hmem : preset ∈ presets) :
    d.label = preset.2.label ↔ d.key = preset.2.key := by
  have hlabel : ∀ p ∈ presets, p.2.label ≠ unknownLabel := by decide
  have hapart : ∀ p ∈ presets, ∀ q ∈ presets, p.2.label = q.2.label → p = q := by decide
  refine ⟨fun hsame => ?_, label_eq_of_sameKey h (reference_of_mem_presets hmem)⟩
  by_cases hkey : ∃ p ∈ presets, d.key = p.2.key
  · obtain ⟨p, hp, hkey⟩ := hkey
    have hlabel' := label_eq_of_sameKey h (reference_of_mem_presets hp) hkey
    rw [hkey, hapart p hp preset hmem (hlabel'.symm.trans hsame)]
  · have hunknown := label_eq_unknown h fun p hp hsame => hkey ⟨p, hp, hsame⟩
    exact absurd (hsame.symm.trans hunknown) (hlabel preset hmem)

theorem Faithful.toWindow_eq (h : d.Faithful) (hmem : preset ∈ presets)
    (hkey : d.key = preset.2.key) : d.toWindow = preset.2.toWindow := by
  rw [eq_of_sameKey h (faithful_of_mem_presets hmem) (decide_eq_true hkey)]

theorem Faithful.label_preset (h : d.Faithful) (hmem : preset ∈ presets)
    (hw : d.toWindow = preset.2.toWindow) (hkey : d.key ≠ preset.2.key) : d.label = unknownLabel := by
  have hreference : d.reference = preset.2.reference := congrArg Window.reference hw
  have hapart : ∀ p ∈ presets, ∀ q ∈ presets, p.2.toWindow = q.2.toWindow → p.2.key = q.2.key := by
    decide
  refine label_eq_unknown (hreference ▸ reference_of_mem_presets hmem) fun p hp hsame => hkey ?_
  rw [hsame, hapart p hp preset hmem ((h.toWindow_eq hp hsame).symm.trans hw)]

theorem Faithful.label_eq_iff (h : d.Faithful) (h' : d'.Faithful) (hw : d.toWindow = d'.toWindow) :
    d.label = d'.label ↔ ∀ preset ∈ presets, d.toWindow = preset.2.toWindow →
      (d.key = preset.2.key ↔ d'.key = preset.2.key) := by
  have hreference : d.reference = d'.reference := congrArg Window.reference hw
  by_cases hnow : d.reference = .now
  · have hlabel : d.label = d'.label := by
      rw [label_of_now hnow, label_of_now (hreference ▸ hnow), hw]
    refine ⟨fun _ preset hmem hwindow => ?_, fun _ => hlabel⟩
    have hpreset : preset.2.reference = .now := (congrArg Window.reference hwindow).symm.trans hnow
    exact absurd hpreset (reference_of_mem_presets hmem)
  have hnow' : d'.reference ≠ .now := hreference ▸ hnow
  constructor
  · intro hlabel preset hmem _
    rw [← label_eq_preset_iff hnow hmem, ← label_eq_preset_iff hnow' hmem, hlabel]
  · intro hkeys
    by_cases hkey : ∃ p ∈ presets, d.key = p.2.key
    · obtain ⟨p, hp, hkey⟩ := hkey
      have hkey' := (hkeys p hp (h.toWindow_eq hp hkey)).1 hkey
      rw [(label_eq_preset_iff hnow hp).2 hkey, (label_eq_preset_iff hnow' hp).2 hkey']
    · have hother : ∀ p ∈ presets, d.key ≠ p.2.key := fun p hp hsame => hkey ⟨p, hp, hsame⟩
      have hother' : ∀ p ∈ presets, d'.key ≠ p.2.key := fun p hp hsame =>
        hother p hp ((hkeys p hp (hw.trans (h'.toWindow_eq hp hsame))).2 hsame)
      rw [label_eq_unknown hnow hother, label_eq_unknown hnow' hother']

end Descriptor

namespace Resolver

open Descriptor (presets unknownLabel)

variable {k₁ k₂ : Value} {w : Window}

theorem exists_faithful_of_decode {k : Value} (h : Key.decode k = .ok w) :
    ∃ s, k = .ofText s ∧ (⟨w, s⟩ : Descriptor).Faithful := by
  obtain ⟨s, rfl, -⟩ := Key.decode_eq_ok_iff.1 h
  exact ⟨s, rfl, h⟩

theorem resolve_respelled (w : Window) (s s' : String) (r : Resolver) (reading : Reading) :
    (r.resolve (.descriptor ⟨w, s⟩) reading).result =
      (r.resolve (.descriptor ⟨w, s'⟩) reading).result := by
  simp only [resolve, Options.descriptor]
  cases r.face.moment reading with
  | error e => rfl
  | ok now => exact congrArg (Except.mapError _) (Options.resolveAt_respelled w s s' now r.options)

/-- Keys that say the same have one range, and one label unless what they say is a preset and just
one of them is the key that it goes by; a preset that is spelled otherwise has no label of its own.
-/
theorem label_of_same_window (h₁ : Key.decode k₁ = .ok w) (h₂ : Key.decode k₂ = .ok w)
    (r : Resolver) (reading : Reading) :
    (r.resolve (.key k₁) reading).result = (r.resolve (.key k₂) reading).result ∧
    ((r.label (.key k₁)).result = (r.label (.key k₂)).result ↔
      ∀ preset ∈ presets, w = preset.2.toWindow →
        (k₁ = .ofText preset.2.key ↔ k₂ = .ofText preset.2.key)) ∧
    ((∀ preset ∈ presets, w = preset.2.toWindow → k₁ = .ofText preset.2.key) →
      (r.label (.key k₁)).result = .ok w.descriptor.label) ∧
    ∀ preset ∈ presets, w = preset.2.toWindow → k₁ ≠ .ofText preset.2.key →
      (r.label (.key k₁)).result = .ok unknownLabel := by
  have hwritable := Key.isWritable_of_decode h₁
  obtain ⟨s₁, rfl, hs₁⟩ := exists_faithful_of_decode h₁
  obtain ⟨s₂, rfl, hs₂⟩ := exists_faithful_of_decode h₂
  have hlabel₁ : (r.label (.key (.ofText s₁))).result = .ok (⟨w, s₁⟩ : Descriptor).label :=
    congrArg Outcome.result (hs₁.label_key r)
  have hlabel₂ : (r.label (.key (.ofText s₂))).result = .ok (⟨w, s₂⟩ : Descriptor).label :=
    congrArg Outcome.result (hs₂.label_key r)
  have htext : ∀ s s' : String, Value.ofText s = .ofText s' ↔ s = s' := by
    intro s s'
    simp [Value.ofText]
  simp only [hlabel₁, hlabel₂, htext, Except.ok.injEq]
  refine ⟨?_, hs₁.label_eq_iff hs₂ rfl, fun hown => ?_, fun preset hmem hw hkey => ?_⟩
  · have hresolve₁ := hs₁.resolve_key r reading
    have hresolve₂ := hs₂.resolve_key r reading
    exact (congrArg Outcome.result hresolve₁).trans
      ((resolve_respelled w s₁ s₂ r reading).trans (congrArg Outcome.result hresolve₂).symm)
  · have hfaithful : w.descriptor.Faithful := Descriptor.faithful_of_window hwritable
    refine (hs₁.label_eq_iff hfaithful rfl).2 fun preset hmem hw => ?_
    have hkeys : ∀ p ∈ presets, p.2.toWindow.descriptor.key = p.2.key := by decide
    rw [← hkeys preset hmem, ← hw]
    exact iff_of_true (by rw [hown preset hmem hw, ← hkeys preset hmem, ← hw]) rfl
  · exact hs₁.label_preset hmem hw fun hsame => hkey (congrArg Value.ofText hsame)

theorem label_of_same_window_leading_zeros :
    let padded := Value.ofText "unit=(Day)&count=(-007)&referenceTime=(now)"
    let plain := Value.ofText "unit=(Day)&count=(-7)&referenceTime=(now)"
    Key.decode padded = .ok ⟨.day, -7, .now⟩ ∧ Key.decode plain = .ok ⟨.day, -7, .now⟩ ∧
    ∀ (r : Resolver) (reading : Reading),
      (r.resolve (.key padded) reading).result = (r.resolve (.key plain) reading).result ∧
      (r.label (.key padded)).result = (r.label (.key plain)).result := by
  intro padded plain
  have hpadded : Key.decode padded = .ok ⟨.day, -7, .now⟩ := by cbv
  have hplain : Key.decode plain = .ok ⟨.day, -7, .now⟩ := by cbv
  have hother : ∀ preset ∈ presets, (⟨.day, -7, .now⟩ : Window) ≠ preset.2.toWindow := by decide
  refine ⟨hpadded, hplain, fun r reading => ?_⟩
  obtain ⟨hresolve, hlabel, -⟩ := label_of_same_window hpadded hplain r reading
  exact ⟨hresolve, hlabel.2 fun preset hmem hw => absurd hw (hother preset hmem)⟩

/-- Today with a leading zero is the same window and has another label. -/
theorem label_of_respelled_today :
    Key.decode (.ofText "unit=(Day)&count=(01)&referenceTime=(today)") = .ok ⟨.day, 1, .today⟩ ∧
    Key.decode (.ofText "unit=(Day)&count=(1)&referenceTime=(today)") = .ok ⟨.day, 1, .today⟩ ∧
    (({} : Resolver).label (.key (.ofText "unit=(Day)&count=(01)&referenceTime=(today)"))).result =
      .ok "Unknown time" ∧
    (({} : Resolver).label (.key (.ofText "unit=(Day)&count=(1)&referenceTime=(today)"))).result =
      .ok "Today" := by
  refine ⟨?_, ?_, ?_, ?_⟩ <;> cbv

end Resolver

end TimeWindow
