import TimeWindow.Proofs.Completion.Acceptable
import TimeWindow.Proofs.Resolve.WindowLaw
import TimeWindow.Session

/-!
Stored time values. A document is accepted exactly if it has the tag and the types of one kind of
value, where an older tag for windows counts, and is refused with a fault otherwise. What is stored
of a value is no more than it takes to read the value again.
-/

namespace TimeWindow

open Json (Fields Literal Value)

namespace TimeValue

inductive Stands : Value → TimeValue → Prop
  | absolute {fields : Fields} {start finish : Int}
      (htag : (Value.object fields).field? "type" = some (.ofText "abs"))
      (hstart : (Value.object fields).field? "start" = some (.int start))
      (hfinish : (Value.object fields).field? "end" = some (.int finish)) :
      Stands (.object fields) (.absolute start finish)
  | relative {fields : Fields} {tag : String} {key : Literal} (h : tag = "rel" ∨ tag = "res")
      (htag : (Value.object fields).field? "type" = some (.ofText tag))
      (hkey : (Value.object fields).field? "relativeTimeKey" = some (.string key)) :
      Stands (.object fields) (.relative key)

/-- The fields have a tag of today. All but the tag is from the document, and without any one of
them they would stand for nothing. -/
structure Canonical (p : Value) (fields : Fields) : Prop where
  tag : ∃ tag ∈ tags, (Value.object fields).field? "type" = some (.ofText tag)
  kept : ∀ name ≠ "type", ∀ v, (Value.object fields).field? name = some v → p.field? name = some v
  needed : ∀ field ∈ fields, ∀ value, ¬Stands (.object (fields.filter (·.1 ≠ field.1))) value

variable {p : Value} {value : TimeValue}

theorem standsOut_of_mem_tags : ∀ tag ∈ ["abs", "rel", "res"], StandsOut tag := by
  decide

theorem written_eq_text_iff {v : Value} {tag : String} (h : StandsOut tag) :
    written v = .ok (.text tag) ↔ v = .ofText tag := by
  rw [written]
  constructor
  · intro hv
    split at hv
    · exact (Value.plain_eq_text_iff h).1 (Except.ok.inj hv)
    · cases hv
  · rintro rfl
    rfl

theorem tagOf_eq_iff {tag : String} (h : tag ∈ ["abs", "rel", "res"]) :
    tagOf p = .ok (.text tag) ↔ p.field? "type" = some (.ofText tag) := by
  have hword := standsOut_of_mem_tags tag h
  rw [tagOf]
  cases p.field? "type" with
  | none =>
    refine iff_of_false ?_ nofun
    rintro ⟨⟩
    exact hword.not_numeric rfl
  | some v => rw [Option.some.injEq, written_eq_text_iff hword]

theorem tagOf_of_writable (h : (p.fieldOrNull "type").writable = true) :
    ∃ tag, tagOf p = .ok tag := by
  rw [Value.fieldOrNull] at h
  rw [tagOf]
  cases htag : p.field? "type" with
  | none => exact ⟨"", rfl⟩
  | some v =>
    rw [htag] at h
    exact ⟨v.plain, Json.written_eq h⟩

theorem tagOf_of_unwritable (h : (p.fieldOrNull "type").writable = false) :
    tagOf p = .error .unwritable := by
  rw [Value.fieldOrNull] at h
  rw [tagOf]
  cases htag : p.field? "type" with
  | none =>
    rw [htag] at h
    cases h
  | some v =>
    rw [htag, Option.getD_some] at h
    simp only [written, h, Bool.false_eq_true, if_false]

theorem integerField_eq_ok_iff {name : String} {n : Int} :
    integerField p name = .ok n ↔ p.field? name = some (.int n) := by
  rw [← Value.field_int?_eq_some_iff, integerField]
  cases (p.fieldOrNull name).int? <;> simp

theorem ofTagged_abs_eq_ok_iff : ofTagged p "abs" = .ok value ↔ ∃ start finish,
    p.field? "start" = some (.int start) ∧ p.field? "end" = some (.int finish) ∧
      .absolute start finish = value := by
  rw [ofTagged, if_pos rfl, Except.bind_eq_ok_iff]
  simp only [Except.bind_eq_ok_iff, integerField_eq_ok_iff, pure, Except.pure, Except.ok.injEq,
    exists_and_left]

theorem ofTagged_window_eq_ok_iff {tag : String} (h : tag = "rel" ∨ tag = "res") :
    ofTagged p tag = .ok value ↔ ∃ key,
      p.field? "relativeTimeKey" = some (.string key) ∧ .relative key = value := by
  have hne : (tag : Literal) ≠ "abs" := by
    rcases h with rfl | rfl <;> decide
  have htag : (tag : Literal) = "rel" ∨ (tag : Literal) = "res" :=
    h.imp (congrArg Literal.text) (congrArg Literal.text)
  have hkey : ∀ key, p.fieldOrNull "relativeTimeKey" = .string key ↔
      p.field? "relativeTimeKey" = some (.string key) :=
    fun key => Value.fieldOrNull_eq_iff nofun
  simp only [← hkey]
  rw [ofTagged, if_neg hne, if_pos htag]
  cases p.fieldOrNull "relativeTimeKey" <;> simp

theorem ofValue_of_tagOf {fields : Fields} {tag : Literal}
    (h : tagOf (.object fields) = .ok tag) :
    ofValue (.object fields) = (ofTagged (.object fields) tag).mapError .fault := by
  rw [ofValue, Value.isObject, if_pos rfl, h]
  rfl

theorem ofValue_of_stands (h : Stands p value) : ofValue p = .ok value := by
  cases h with
  | @absolute fields start finish htag hstart hfinish =>
    rw [ofValue_of_tagOf ((tagOf_eq_iff (by decide)).2 htag), Except.mapError_eq_ok_iff]
    exact ofTagged_abs_eq_ok_iff.2 ⟨start, finish, hstart, hfinish, rfl⟩
  | @relative fields tag key h htag hkey =>
    have hmem : tag ∈ ["abs", "rel", "res"] := by
      rcases h with rfl | rfl <;> decide
    rw [ofValue_of_tagOf ((tagOf_eq_iff hmem).2 htag), Except.mapError_eq_ok_iff]
    exact (ofTagged_window_eq_ok_iff h).2 ⟨key, hkey, rfl⟩

theorem stands_of_ofTagged {fields : Fields} {tag : Literal}
    (htag : tagOf (.object fields) = .ok tag) (h : ofTagged (.object fields) tag = .ok value) :
    Stands (.object fields) value := by
  by_cases habs : tag = "abs"
  · subst habs
    obtain ⟨start, finish, hstart, hfinish, rfl⟩ := ofTagged_abs_eq_ok_iff.1 h
    exact .absolute ((tagOf_eq_iff (by decide)).1 htag) hstart hfinish
  · by_cases hrel : tag = "rel"
    · subst hrel
      obtain ⟨key, hkey, rfl⟩ := (ofTagged_window_eq_ok_iff (.inl rfl)).1 h
      exact .relative (.inl rfl) ((tagOf_eq_iff (by decide)).1 htag) hkey
    · by_cases hres : tag = "res"
      · subst hres
        obtain ⟨key, hkey, rfl⟩ := (ofTagged_window_eq_ok_iff (.inr rfl)).1 h
        exact .relative (.inr rfl) ((tagOf_eq_iff (by decide)).1 htag) hkey
      · rw [ofTagged, if_neg habs, if_neg (not_or.2 ⟨hrel, hres⟩)] at h
        cases h

theorem ofValue_eq_ok_iff : ofValue p = .ok value ↔ Stands p value := by
  refine ⟨fun h => ?_, ofValue_of_stands⟩
  cases p with
  | object fields =>
    obtain ⟨tag, htag, h⟩ := Except.bind_eq_ok_iff.1 h
    exact stands_of_ofTagged (Except.mapError_eq_ok_iff.1 htag) (Except.mapError_eq_ok_iff.1 h)
  | _ => cases h

theorem exists_fault (htag : (p.fieldOrNull "type").writable = true)
    (hnone : ∀ value, ¬Stands p value) : ∃ e, ofValue p = .error (.fault e) := by
  cases p with
  | object fields =>
    obtain ⟨tag, htag⟩ := tagOf_of_writable htag
    rw [ofValue_of_tagOf htag]
    cases htagged : ofTagged (.object fields) tag with
    | ok value => exact absurd (stands_of_ofTagged htag htagged) (hnone value)
    | error e => exact ⟨e, rfl⟩
  | _ => exact ⟨.notAnObject, rfl⟩

theorem ofValue_of_unwritable (htag : (p.fieldOrNull "type").writable = false) :
    ofValue p = .error (.failed .unwritable) := by
  cases p with
  | object fields =>
    rw [ofValue, Value.isObject, if_pos rfl, tagOf_of_unwritable htag]
    rfl
  | _ => cases htag

theorem stands_toValue (value : TimeValue) : Stands value.toValue value := by
  cases value with
  | absolute start finish => exact .absolute rfl rfl rfl
  | relative key => exact .relative (.inl rfl) rfl rfl

theorem not_stands_of_tag (h : p.field? "type" = none) : ¬Stands p value := by
  intro hstands
  cases hstands with
  | absolute htag => cases h.symm.trans htag
  | relative _ htag => cases h.symm.trans htag

theorem not_stands_of_end (htag : p.field? "type" = some (.ofText "abs"))
    (h : p.field? "start" = none ∨ p.field? "end" = none) : ¬Stands p value := by
  intro hstands
  cases hstands with
  | absolute _ hstart hfinish =>
    rcases h with h | h
    · cases h.symm.trans hstart
    · cases h.symm.trans hfinish
  | relative hwindow htag' =>
    cases htag.symm.trans htag'
    exact absurd hwindow (by decide)

theorem not_stands_of_key (htag : p.field? "type" = some (.ofText "rel"))
    (h : p.field? "relativeTimeKey" = none) : ¬Stands p value := by
  intro hstands
  cases hstands with
  | absolute htag' => exact absurd (htag.symm.trans htag') (by simp [Value.ofText])
  | relative _ _ hkey => cases h.symm.trans hkey

theorem canonical_toValue (h : Stands p value) :
    ∃ fields, value.toValue = .object fields ∧ Canonical p fields := by
  cases h with
  | @absolute fields start finish htag hstart hfinish =>
    refine ⟨[("type", .ofText "abs"), ("start", .int start), ("end", .int finish)], rfl,
      ⟨"abs", by decide, rfl⟩, ?_, ?_⟩
    · intro name hname v hv
      simp only [Value.field?, Fields.get?] at hv
      split_ifs at hv with htype hs hf
      · exact absurd (Literal.text.inj htype).symm hname
      · cases hv
        rwa [← Literal.text.inj hs]
      · cases hv
        rwa [← Literal.text.inj hf]
    · simp only [List.forall_mem_cons]
      exact ⟨fun _ => not_stands_of_tag rfl, fun _ => not_stands_of_end rfl (.inl rfl),
        fun _ => not_stands_of_end rfl (.inr rfl), List.forall_mem_nil _⟩
  | @relative fields tag key _ _ hkey =>
    refine ⟨[("type", .ofText "rel"), ("relativeTimeKey", .string key)], rfl,
      ⟨"rel", by decide, rfl⟩, ?_, ?_⟩
    · intro name hname v hv
      simp only [Value.field?, Fields.get?] at hv
      split_ifs at hv with htype hk
      · exact absurd (Literal.text.inj htype).symm hname
      · cases hv
        rwa [← Literal.text.inj hk]
    · simp only [List.forall_mem_cons]
      exact ⟨fun _ => not_stands_of_tag rfl, fun _ => not_stands_of_key rfl rfl,
        List.forall_mem_nil _⟩

theorem perm_min_max (a b : Int) : [min a b, max a b].Perm [a, b] := by
  rcases Int.le_total a b with h | h
  · rw [Int.min_eq_left h, Int.max_eq_right h]
  · rw [Int.min_eq_right h, Int.max_eq_left h]
    exact .swap a b []

/-- Stored values are read back. Exactly the documents that stand for a value are accepted, and what
is stored of a value that was read is canonical. Any other is refused with a fault, or without one
if there is a number in its tag that is too long to be written out, which no document that was read
from a text has. An absolute value is its two ends in order, and a window is resolved by its key. -/
theorem stored_exactly (r : Resolver) (reading : Reading) :
    (∀ value : TimeValue, ofValue value.toValue = .ok value) ∧
    (∀ p value, ofValue p = .ok value ↔ Stands p value) ∧
    (∀ p, (∀ value, ¬Stands p value) →
      ((p.fieldOrNull "type").writable = true → ∃ e, ofValue p = .error (.fault e)) ∧
      ((p.fieldOrNull "type").writable = false → ofValue p = .error (.failed .unwritable))) ∧
    (∀ text p, Json.read text = some p → (p.fieldOrNull "type").writable = true) ∧
    (∀ p value, Stands p value → ofValue value.toValue = .ok value ∧
      ∃ fields, value.toValue = .object fields ∧ Canonical p fields) ∧
    (∀ start finish, ∃ range : Range,
      r.rangeOf (.absolute start finish) reading = { result := .ok range } ∧
      r.rangeOf (.absolute finish start) reading = { result := .ok range } ∧
      range.start ≤ range.finish ∧ [range.start, range.finish].Perm [start, finish]) ∧
    ∀ key, r.rangeOf (.relative key) reading = r.resolve (.key (.string key)) reading := by
  have hback : ∀ value : TimeValue, ofValue value.toValue = .ok value :=
    fun value => ofValue_of_stands (stands_toValue value)
  refine ⟨hback, fun p value => ofValue_eq_ok_iff,
    fun p hnone => ⟨fun htag => exists_fault htag hnone, ofValue_of_unwritable⟩,
    fun text p h => Value.writable_fieldOrNull (Json.writable_read h) "type",
    fun p value h => ⟨hback value, canonical_toValue h⟩, fun start finish => ?_, fun key => rfl⟩
  refine ⟨⟨min start finish, max start finish⟩, ?_, ?_, min_le_max, perm_min_max start finish⟩
  · rw [Resolver.rangeOf, Range.between_eq]
  · rw [Resolver.rangeOf, Range.between_eq, Int.min_comm, Int.max_comm]

/-- The older tag with a field that is not needed, and a truth value for an end. -/
theorem stored_exactly_older_tag :
    let text := "\x7b\"note\":1,\"type\":\"res\",\"relativeTimeKey\":\"today\"\x7d"
    let refused := "\x7b\"type\":\"abs\",\"start\":true,\"end\":1\x7d"
    (∃ p fields, Json.read text = some p ∧ ofValue p = .ok (.relative "today") ∧
      toValue (.relative "today") = .object fields ∧ Canonical p fields) ∧
    ∃ p e, Json.read refused = some p ∧ ofValue p = .error (.fault e) := by
  intro text refused
  obtain ⟨-, haccepted, hrefused, hread, hcanonical, -⟩ :=
    stored_exactly {} ⟨⟨0, by decide, by decide⟩, false⟩
  let older : Value := .object
    [("note", .int 1), ("type", .ofText "res"), ("relativeTimeKey", .ofText "today")]
  let faulty : Value := .object
    [("type", .ofText "abs"), ("start", .bool true), ("end", .int 1)]
  have holder : Json.read text = some older := by
    cbv
  have hfaulty : Json.read refused = some faulty := by
    cbv
  have hstands : Stands older (.relative "today") := .relative (.inr rfl) rfl rfl
  have hnone : ∀ value, ¬Stands faulty value := by
    intro value h
    generalize hp : faulty = p at h
    cases h with
    | absolute _ hstart =>
      cases Value.object.inj hp
      cases hstart
    | relative hwindow htag =>
      cases Value.object.inj hp
      cases htag
      exact absurd hwindow (by decide)
  obtain ⟨-, fields, hfields, hsame⟩ := hcanonical older _ hstands
  obtain ⟨e, he⟩ := (hrefused faulty hnone).1 (hread refused faulty hfaulty)
  exact ⟨⟨older, fields, holder, (haccepted _ _).2 hstands, hfields, hsame⟩, faulty, e, hfaulty, he⟩

/-- The smallest number that is too long for a tag is refused without a fault. -/
theorem stored_fails_on_long_tag :
    let p : Value := .object [("type", .int (10 ^ 4300))]
    (∀ value, ¬Stands p value) ∧ ofValue p = .error (.failed .unwritable) := by
  intro p
  have htag : (p.fieldOrNull "type").writable = false := Value.not_writable_long
  refine ⟨fun value h => ?_, ofValue_of_unwritable htag⟩
  cases (ofValue_of_stands h).symm.trans (ofValue_of_unwritable htag)

end TimeValue

end TimeWindow
