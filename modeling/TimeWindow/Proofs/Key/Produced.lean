import TimeWindow.Proofs.Key.Faithful

/-!
What follows for descriptors that the library hands out. Such a descriptor and its key are the same
to every resolver, its key says all there is to it, and a key that comes out of a resolved text can
be kept and resolved again.
-/

namespace TimeWindow

open Json (Literal Value)

theorem Resolver.described_eq_ok {r : Resolver} {target : Target} {d : Descriptor}
    (h : (r.described target).result = .ok d) : ∃ ds, r.options.descriptor target = .ok (d, ds) := by
  rw [described] at h
  split at h
  · rename_i ds hd
    cases h
    exact ⟨ds, hd⟩
  · cases h

namespace Descriptor

/-- The ways in which descriptors come about. A key that cannot be read gives the fallback, which
must have come about in one of these ways itself. -/
inductive Produced : Descriptor → Prop
  | built {unit count reference : Value} {d : Descriptor} :
      ofValues unit count reference = .ok d → Produced d
  | preset {name : String} {d : Descriptor} : (name, d) ∈ presets → Produced d
  | parsed {r : Resolver} {key : Value} {d : Descriptor} :
      Produced r.options.fallback → (r.parse key).result = .ok d → Produced d
  | phrase {text : String} {f : Phrase.Found} :
      Phrase.parse text = .ok (some f) → Produced f.descriptor
  | completed {env : Environment} {client : Option Client} {w : Window} :
      (Completion.run env client).window = .ok (some w) → Produced w.descriptor
  | configured {env : Environment} {d : Descriptor} {ds : List Diagnostic} :
      Settings.fallback env = .ok (d, ds) → Produced d

theorem Produced.faithful {d : Descriptor} (h : Produced d) : d.Faithful := by
  induction h with
  | built h => exact faithful_of_values h
  | preset h => exact faithful_of_mem_presets h
  | parsed _ h ih =>
    obtain ⟨ds, hd⟩ := Resolver.described_eq_ok h
    exact faithful_of_parse ih hd
  | phrase h => exact faithful_of_phrase h
  | completed h => exact faithful_of_completion h
  | configured h => exact faithful_of_settings h

theorem Faithful.descriptor_key {d : Descriptor} (h : d.Faithful) (o : Options) :
    o.descriptor (.key (.string d.key)) = o.descriptor (.descriptor d) := by
  change o.parse (.string d.key) = .ok (d, [])
  rw [Options.parse, h]
  rfl

theorem Faithful.resolve_key {d : Descriptor} (h : d.Faithful) (r : Resolver) (reading : Reading) :
    r.resolve (.key (.string d.key)) reading = r.resolve (.descriptor d) reading := by
  rw [Resolver.resolve, Resolver.resolve, h.descriptor_key]

theorem Faithful.described_key {d : Descriptor} (h : d.Faithful) (r : Resolver) :
    r.described (.key (.string d.key)) = r.described (.descriptor d) := by
  rw [Resolver.described, Resolver.described, h.descriptor_key]

theorem Faithful.label_key {d : Descriptor} (h : d.Faithful) (r : Resolver) :
    r.label (.key (.string d.key)) = r.label (.descriptor d) := by
  rw [Resolver.label, Resolver.label, h.described_key]

theorem Faithful.parse_key {d : Descriptor} (h : d.Faithful) (r : Resolver) :
    (r.parse (.string d.key)).result = .ok d := by
  rw [Resolver.parse, h.described_key]
  rfl

end Descriptor

namespace Normalization

theorem resolveStage_eq_ok {setup : Setup} {stage : Stage} {reading : Reading} {n : Normalized}
    (h : (resolveStage setup stage reading).result = .ok n) :
    stage.descriptor = some n.descriptor ∧
      (setup.resolver.resolve (.descriptor n.descriptor) reading).result = .ok n.range := by
  rw [resolveStage] at h
  split at h
  · cases h
  · rename_i d hd
    obtain ⟨range, hr, h⟩ := Except.bind_eq_ok_iff.1 h
    obtain ⟨value, -, h⟩ := Except.bind_eq_ok_iff.1 h
    cases h
    exact ⟨hd, hr⟩

theorem run_eq_ok {setup : Setup} {text : String} {reading : Reading} {n : Normalized}
    (h : (run setup text reading).result = .ok n) :
    n.descriptor.Produced ∧
      (setup.resolver.resolve (.descriptor n.descriptor) reading).result = .ok n.range := by
  rw [run] at h
  split at h
  · cases h
  · rename_i found hp
    cases found with
    | some f =>
      obtain ⟨hd, hr⟩ := resolveStage_eq_ok h
      have produced : f.descriptor.Produced := .phrase hp
      exact ⟨Option.some.inj hd ▸ produced, hr⟩
    | none =>
      dsimp only at h
      split at h
      · cases h
      · rename_i window hwindow
        obtain ⟨hd, hr⟩ := resolveStage_eq_ok h
        obtain ⟨w, rfl, hw⟩ := Option.map_eq_some_iff.1 hd
        rw [← hw]
        exact ⟨.completed hwindow, hw ▸ hr⟩

end Normalization

theorem Resolver.resolve_result_eq {r s : Resolver} (ho : r.options = s.options)
    (hf : r.face = s.face) (target : Target) (reading : Reading) :
    (r.resolve target reading).result = (s.resolve target reading).result := by
  rw [Resolver.resolve, Resolver.resolve, ho, hf]
  cases s.options.descriptor target <;> rfl

/-- A descriptor that the library hands out is the window that its key is read as. To resolve or to
label the one is to resolve or to label the other, descriptors with one key are one descriptor, and
the key of a resolved text leads to its range and its label again. -/
theorem produced_follows_key :
    (∀ d : Descriptor, d.Produced →
      Key.decode (.string d.key) = .ok d.toWindow ∧
      ∀ (r : Resolver) (reading : Reading),
        r.resolve (.key (.string d.key)) reading = r.resolve (.descriptor d) reading ∧
        r.label (.key (.string d.key)) = r.label (.descriptor d)) ∧
    (∀ (r : Resolver) (key : Value) (d : Descriptor), r.options.fallback.Produced →
      (r.parse key).result = .ok d → (r.parse (.string d.key)).result = .ok d) ∧
    (∀ d e : Descriptor, d.Produced → e.Produced → d.sameKey e → d = e) ∧
    ∀ (setup : Normalization.Setup) (text : String) (reading : Reading)
      (n : Normalization.Normalized) (r : Resolver),
      (Normalization.run setup text reading).result = .ok n →
      r.options = setup.resolver.options → r.face = setup.resolver.face →
        (r.resolve (.key (.string n.descriptor.key)) reading).result = .ok n.range ∧
        (r.label (.key (.string n.descriptor.key))).result = .ok n.descriptor.label := by
  refine ⟨fun d hd => ⟨hd.faithful, fun r reading => ?_⟩, fun r key d hf hd => ?_,
    fun d e hd he h => ?_, fun setup text reading n r hn ho hf => ?_⟩
  · exact ⟨hd.faithful.resolve_key r reading, hd.faithful.label_key r⟩
  · have produced : d.Produced := .parsed hf hd
    exact produced.faithful.parse_key r
  · exact Descriptor.eq_of_sameKey hd.faithful he.faithful h
  · obtain ⟨produced, hr⟩ := Normalization.run_eq_ok hn
    have faithful := produced.faithful
    constructor
    · rw [faithful.resolve_key, Resolver.resolve_result_eq ho hf]
      exact hr
    · rw [faithful.label_key]
      rfl

theorem produced_follows_padded_key :
    let d : Descriptor := ⟨⟨.day, 7, .now⟩, "unit=(Day)&count=(007)&referenceTime=(now)"⟩
    d.Produced ∧ Key.decode (.string d.key) = .ok d.toWindow := by
  intro d
  have fallback : ({} : Resolver).options.fallback.Produced := .preset List.mem_cons_self
  have parsed : (({} : Resolver).parse (.ofText d.key)).result = .ok d := by cbv
  have produced : d.Produced := .parsed fallback parsed
  exact ⟨produced, (produced_follows_key.1 d produced).1⟩

end TimeWindow
