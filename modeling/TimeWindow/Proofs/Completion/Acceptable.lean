import TimeWindow.Completion
import TimeWindow.Proofs.Json.Shown
import TimeWindow.Proofs.Json.Whole
import TimeWindow.Proofs.Key.RoundTrip

/-!
Acceptable answers of a model. A reply is accepted exactly if it is a document that names a window:
an object in it gives a whole number and two strings that are words of the vocabulary. The way
through a key lets nothing else pass, although any value is shown as a text on that way.
-/

namespace TimeWindow

open Json (Fields Value)

namespace Json.Value

theorem fieldOrNull_of_field? {v w : Value} {name : String} (h : v.field? name = some w) :
    v.fieldOrNull name = w := by
  rw [fieldOrNull, h, Option.getD_some]

theorem fieldOrNull_eq_iff {v w : Value} {name : String} (h : w ≠ .null) :
    v.fieldOrNull name = w ↔ v.field? name = some w := by
  refine ⟨fun hw => ?_, fieldOrNull_of_field?⟩
  rw [fieldOrNull] at hw
  cases hfield : v.field? name with
  | none =>
    rw [hfield] at hw
    exact absurd hw.symm h
  | some field =>
    rw [hfield] at hw
    exact congrArg some hw

theorem plain_field_eq_word_iff {v : Value} {name word : String} (hword : word ∈ words) :
    (v.fieldOrNull name).plain = .text word ↔ v.field? name = some (.ofText word) :=
  (plain_eq_text_iff (standsOut_of_mem_words word hword)).trans (fieldOrNull_eq_iff nofun)

theorem int?_eq_some_iff {v : Value} {n : Int} : v.int? = some n ↔ v = .int n := by
  cases v <;> simp [int?]

theorem field_int?_eq_some_iff {v : Value} {name : String} {n : Int} :
    (v.fieldOrNull name).int? = some n ↔ v.field? name = some (.int n) :=
  int?_eq_some_iff.trans (fieldOrNull_eq_iff nofun)

theorem isObject_field_iff {v : Value} {name : String} :
    (v.fieldOrNull name).isObject = true ↔ ∃ fields, v.field? name = some (.object fields) := by
  constructor
  · intro h
    cases hfield : v.fieldOrNull name with
    | object fields =>
      have hne : Value.object fields ≠ .null := nofun
      exact ⟨fields, (fieldOrNull_eq_iff hne).1 hfield⟩
    | _ =>
      rw [hfield] at h
      cases h
  · rintro ⟨fields, h⟩
    rw [fieldOrNull_of_field? h, isObject]

theorem exists_object_of_field? {v w : Value} {name : String} (h : v.field? name = some w) :
    ∃ fields, v = .object fields := by
  cases v with
  | object fields => exact ⟨fields, rfl⟩
  | _ => cases h

end Json.Value

namespace Completion

inductive Names : Reply → Window → Prop
  | document {reply : Reply} {s : String} {fields completed : Fields} {w : Window}
      (htext : reply.text? = some s) (hread : Json.read s = some (.object fields))
      (hcompleted : (Value.object fields).field? "completed" = some (.object completed))
      (hcount : (Value.object completed).field? "count" = some (.int w.count))
      (hunit : (Value.object completed).field? "unit" = some (.ofText w.unit.text))
      (hreference :
        (Value.object completed).field? "referenceTime" = some (.ofText w.reference.text)) :
      Names reply w

inductive Lacks : Reply → Rejection → Prop
  | document {reply : Reply} (h : ∀ s v, reply.text? = some s → Json.read s ≠ some v) :
      Lacks reply .unreadable
  | completed {reply : Reply} {s : String} {v : Value} (htext : reply.text? = some s)
      (hread : Json.read s = some v)
      (h : ∀ completed, v.field? "completed" ≠ some (.object completed)) : Lacks reply .missing
  | window {reply : Reply} {s : String} {v : Value} {completed : Fields}
      (htext : reply.text? = some s) (hread : Json.read s = some v)
      (hcompleted : v.field? "completed" = some (.object completed))
      (h : ∀ w, ¬Names reply w) : Lacks reply .invalid

variable {reply : Reply} {v completed : Value} {w : Window} {r : Rejection}

theorem Lacks.not_names (h : Lacks reply r) : ¬Names reply w := by
  intro hnames
  have ⟨htext, hread, hcompleted, _, _, _⟩ := hnames
  cases h with
  | document hnone => exact hnone _ _ htext hread
  | completed htext' hread' hnone =>
    cases htext.symm.trans htext'
    cases hread.symm.trans hread'
    exact hnone _ hcompleted
  | window htext' hread' hcompleted' hnone => exact hnone w hnames

def keyOf (completed : Value) (count : Int) : Value :=
  .string (Key.spell (completed.fieldOrNull "unit").plain count
    (completed.fieldOrNull "referenceTime").plain)

theorem window_of_count {count : Int} (h : completed.writable = true)
    (hcount : completed.field? "count" = some (.int count)) :
    (∃ w, Key.decode (keyOf completed count) = .ok w ∧ window completed = .ok (.ok w, [])) ∨
      ∃ d, Key.decode (keyOf completed count) = .error (.reported d) ∧
        window completed = .ok (.error .invalid, [d]) := by
  have hwritable : Text.isWritable count := Value.writable_field? h hcount
  rw [window, Value.field_int?_eq_some_iff.2 hcount]
  dsimp only
  rw [Json.written_eq (Value.writable_fieldOrNull h "unit"),
    Json.written_eq (Value.writable_fieldOrNull h "referenceTime"), countOf_eq hwritable]
  simp only [bind, Except.bind]
  obtain ⟨w, hw⟩ | ⟨d, hd⟩ := Key.decode_text_cases _
  · refine .inl ⟨w, hw, ?_⟩
    rw [hw]
    dsimp only
    rw [countOf_eq (Key.isWritable_of_decode hw)]
    rfl
  · refine .inr ⟨d, hd, ?_⟩
    rw [hd]
    rfl

theorem window_cases (h : completed.writable = true) :
    (∃ w, window completed = .ok (.ok w, [])) ∨
      ∃ ds, window completed = .ok (.error .invalid, ds) := by
  cases hcount : (completed.fieldOrNull "count").int? with
  | none => exact .inr ⟨[], by rw [window, hcount]⟩
  | some count =>
    obtain ⟨w, -, hw⟩ | ⟨d, -, hd⟩ := window_of_count h (Value.field_int?_eq_some_iff.1 hcount)
    · exact .inl ⟨w, hw⟩
    · exact .inr ⟨[d], hd⟩

theorem window_eq_ok_iff (h : completed.writable = true) :
    window completed = .ok (.ok w, []) ↔ completed.field? "count" = some (.int w.count) ∧
      completed.field? "unit" = some (.ofText w.unit.text) ∧
        completed.field? "referenceTime" = some (.ofText w.reference.text) := by
  rw [← Value.field_int?_eq_some_iff, ← Value.plain_field_eq_word_iff w.unit.text_mem_words,
    ← Value.plain_field_eq_word_iff w.reference.text_mem_words]
  cases hcount : (completed.fieldOrNull "count").int? with
  | none =>
    rw [window, hcount]
    exact iff_of_false nofun fun hw => nomatch hw.1
  | some count =>
    have hfield := Value.field_int?_eq_some_iff.1 hcount
    have hwritable : Text.isWritable count := Value.writable_field? h hfield
    have hdecode : Key.decode (keyOf completed count) = .ok w ↔ some count = some w.count ∧
        (completed.fieldOrNull "unit").plain = w.unit.text ∧
          (completed.fieldOrNull "referenceTime").plain = w.reference.text := by
      rw [keyOf, Key.decode_spell_eq_ok_iff, Option.some.injEq]
      constructor
      · rintro ⟨hunit, hw, hreference, -⟩
        exact ⟨hw.symm, hunit, hreference⟩
      · rintro ⟨hw, hunit, hreference⟩
        exact ⟨hunit, hw.symm, hreference, hwritable⟩
    rw [← hdecode]
    obtain ⟨w', hw, hwindow⟩ | ⟨d, hd, hwindow⟩ := window_of_count h hfield
    · rw [hw, hwindow]
      simp
    · rw [hd, hwindow]
      simp

theorem judge_of_read {s : String} {v : Value} (htext : reply.text? = some s)
    (hread : Json.read s = some v) :
    judge reply = if (v.fieldOrNull "completed").isObject then window (v.fieldOrNull "completed")
      else .ok (.error .missing, []) := by
  rw [judge, document?, htext, Option.bind_some, hread]

theorem judge_of_names (h : Names reply w) : judge reply = .ok (.ok w, []) := by
  obtain ⟨htext, hread, hcompleted, hcount, hunit, hreference⟩ := h
  have hobject := Value.isObject_field_iff.2 ⟨_, hcompleted⟩
  have hwritable := Value.writable_field? (Json.writable_read hread) hcompleted
  rw [judge_of_read htext hread, if_pos hobject, Value.fieldOrNull_of_field? hcompleted]
  exact (window_eq_ok_iff hwritable).2 ⟨hcount, hunit, hreference⟩

theorem Names.unique {w' : Window} (h : Names reply w) (h' : Names reply w') : w = w' := by
  cases (judge_of_names h).symm.trans (judge_of_names h')
  rfl

theorem judge_cases (reply : Reply) :
    (∃ w, Names reply w ∧ judge reply = .ok (.ok w, [])) ∨
      ∃ r ds, Lacks reply r ∧ judge reply = .ok (.error r, ds) := by
  cases hdocument : document? reply with
  | none =>
    refine .inr ⟨_, [], .document fun s v htext hread => ?_, by rw [judge, hdocument]⟩
    rw [document?, htext, Option.bind_some, hread] at hdocument
    cases hdocument
  | some v =>
    obtain ⟨s, htext, hread⟩ := Option.bind_eq_some_iff.1 hdocument
    have hjudge := judge_of_read htext hread
    by_cases hobject : (v.fieldOrNull "completed").isObject = true
    · obtain ⟨completed, hcompleted⟩ := Value.isObject_field_iff.1 hobject
      obtain ⟨fields, rfl⟩ := Value.exists_object_of_field? hcompleted
      have hwritable := Value.writable_field? (Json.writable_read hread) hcompleted
      rw [if_pos hobject, Value.fieldOrNull_of_field? hcompleted] at hjudge
      obtain ⟨w, hw⟩ | ⟨ds, hds⟩ := window_cases hwritable
      · obtain ⟨hcount, hunit, hreference⟩ := (window_eq_ok_iff hwritable).1 hw
        exact .inl ⟨w, .document htext hread hcompleted hcount hunit hreference, hjudge.trans hw⟩
      · refine .inr ⟨_, ds, .window htext hread hcompleted fun w hnames => ?_, hjudge.trans hds⟩
        rw [judge_of_names hnames, hds] at hjudge
        cases hjudge
    · rw [if_neg hobject] at hjudge
      refine .inr ⟨_, [], .completed htext hread fun completed hcompleted => ?_, hjudge⟩
      exact hobject (Value.isObject_field_iff.2 ⟨completed, hcompleted⟩)

end Completion

end TimeWindow
