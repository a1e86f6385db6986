import TimeWindow.Console
import TimeWindow.Proofs.Resolve.WindowLaw

/-!
Ranges that can be written out. The ends of a range are written as times of universal time, so both
must be instants of the years 1 to 9999. Now is one, and so is every offset that is cut off or
counted in time that passes. The start of a period and an offset in days or more are found on the
wall of a zone, and there the calendar reaches further to one side than in universal time.
-/

namespace TimeWindow

open Calendar (CalendarError Moment Wall Zone dayMicros firstMicros lastMicros secondMicros)

namespace Calendar

def firstMillis : Int := firstMicros / 1000

def lastMillis : Int := lastMicros / 1000

/-- An instant of the years 1 to 9999 in universal time, in milliseconds. -/
def Dated (ms : Int) : Prop :=
  firstMillis ≤ ms ∧ ms ≤ lastMillis

theorem dated_wall (w : Wall) : Dated (w.micros / 1000) := by
  have hfirst := w.first_le
  have hlast := w.le_last
  simp only [Dated, firstMillis, lastMillis]
  omega

namespace Moment

variable {t : Moment} {u : Wall} {ms : Int}

theorem Shows.dated (hu : t.Shows u) (hz : t.zone ≠ .floating) (h : t.epochMillis = .ok ms) :
    Dated ms := by
  rw [hu.epochMillis_eq hz h]
  exact dated_wall u

theorem dated_of_utc (hz : t.zone = .utc) (h : t.epochMillis = .ok ms) : Dated ms := by
  obtain ⟨w, second, zone⟩ := t
  cases hz
  cases (epochMillis_utc w second).symm.trans h
  exact dated_wall w

theorem midnight_le_lastMillis {number : Int} (hz : t.zone ≠ .floating)
    (hw : t.wall.micros = number * dayMicros) (h : t.epochMillis = .ok ms) : ms ≤ lastMillis := by
  obtain ⟨o, ho, rfl⟩ := exists_offset hz h
  have hoffset := Zone.natAbs_offset_lt ho
  have hlast := t.wall.le_last
  simp only [instant, lastMillis, lastMicros, dayMicros, secondMicros] at *
  omega

theorem exists_ofEpochMillis_utc_iff : (∃ t, ofEpochMillis .utc ms = .ok t) ↔ Dated ms := by
  rw [ofEpochMillis, Dated]
  cases hms : Wall.ofMicros? (ms * 1000) with
  | some v =>
    have hv := Wall.ofMicros?_eq_some_iff.1 hms
    have hdated := dated_wall v
    rw [hv, Int.mul_ediv_cancel ms (by decide)] at hdated
    exact iff_of_true ⟨_, ofUniversal_utc v⟩ hdated
  | none =>
    have hout := Wall.ofMicros?_eq_none_iff.1 hms
    simp only [reduceCtorEq, exists_false, firstMillis, lastMillis, firstMicros, lastMicros,
      false_iff] at *
    omega

theorem exists_stamp_of_ofEpochMillis (h : ofEpochMillis .utc ms = .ok t) : ∃ s, t.stamp = .ok s := by
  rw [ofEpochMillis] at h
  split at h
  · obtain ⟨hzone, -⟩ := shows_of_ofUniversal h
    rw [stamp, hzone]
    exact ⟨_, rfl⟩
  · cases h

end Moment

end Calendar

open Calendar (Dated firstMillis lastMillis)

namespace Range

variable {range : Range}

def IsDated (range : Range) : Prop :=
  Dated range.start ∧ Dated range.finish

theorem exists_moments_iff : ((∃ t, range.startMoment .utc = .ok t) ∧
    ∃ t, range.finishMoment .utc = .ok t) ↔ range.IsDated :=
  and_congr Moment.exists_ofEpochMillis_utc_iff Moment.exists_ofEpochMillis_utc_iff

theorem exists_toValue_iff : (∃ v, range.toValue = .ok v) ↔ range.IsDated := by
  rw [← exists_moments_iff]
  simp only [toValue, Except.bind_eq_ok_iff]
  constructor
  · rintro ⟨v, start, hstart, -, -, finish, hfinish, -⟩
    exact ⟨⟨start, hstart⟩, finish, hfinish⟩
  · rintro ⟨⟨start, hstart⟩, finish, hfinish⟩
    obtain ⟨first, hfirst⟩ := Moment.exists_stamp_of_ofEpochMillis hstart
    obtain ⟨last, hlast⟩ := Moment.exists_stamp_of_ofEpochMillis hfinish
    exact ⟨_, start, hstart, first, hfirst, finish, hfinish, last, hlast, rfl⟩

end Range

namespace Options

variable {o : Options} {d : Descriptor} {t start : Moment} {u : Wall} {reference offset now : Int}

theorem range_isDated_iff (hnow : Dated now) (href : reference ≤ lastMillis) :
    (o.range reference offset now).IsDated ↔
      firstMillis ≤ reference ∧ firstMillis ≤ offset ∧
        (o.untilNow = true ∨ offset ≤ lastMillis) := by
  simp only [Dated] at hnow
  rw [range, Range.between_eq]
  cases o.untilNow with
  | false =>
    simp only [Bool.false_eq_true, if_false, Range.IsDated, Dated, false_or]
    omega
  | true =>
    simp only [if_true, Range.cutAt, true_or, and_true]
    split
    · simp only [Range.IsDated, Dated]
      omega
    · simp only [Range.IsDated, Dated]
      omega

theorem reference_le_lastMillis (h : o.referenceMoment d.reference t = .ok start)
    (hu : t.Shows u) (hz : t.zone ≠ .floating) (hstart : start.epochMillis = .ok reference) :
    reference ≤ lastMillis := by
  by_cases hne : d.reference = .now
  · rw [hne] at h
    cases h
    exact (hu.dated hz hstart).2
  · obtain ⟨hw, -, hzone⟩ := (referenceMoment_eq_ok_iff hne).1 h
    exact Moment.midnight_le_lastMillis (hzone ▸ hz) hw hstart

theorem offset_dated (hz : t.zone ≠ .floating)
    (hoffset : (offsetMoment d t).1.epochMillis = .ok offset)
    (h : (offsetMoment d t).2 ≠ [] ∨ d.unit.isElapsed = true) : Dated offset := by
  rcases offsetMoment_cases d t with hutc | hback
  · exact Moment.dated_of_utc hutc hoffset
  · have helapsed : d.unit.isElapsed = true := by
      rw [offsetMoment_of_ok hback] at h
      exact h.resolve_left fun hne => hne rfl
    obtain ⟨v, w, -, -, hw⟩ := (Moment.back_universal_eq_ok_iff ⟨helapsed, hz⟩).1 hback
    obtain ⟨hzone, hshows⟩ := Moment.shows_of_ofUniversal hw
    exact hshows.dated (hzone ▸ hz) hoffset

theorem isDated_of_utc {range : Range} (hz : t.zone = .utc) (h : (o.resolveAt d t).1 = .ok range) :
    range.IsDated := by
  obtain ⟨start, reference, offset, now, hstart, href, hoff, hnow, rfl⟩ := exists_instants h
  have hreference := Moment.dated_of_utc ((referenceMoment_zone hstart).trans hz) href
  have hoffset : Dated offset := by
    rcases offsetMoment_cases d t with hutc | hback
    · exact Moment.dated_of_utc hutc hoff
    · exact Moment.dated_of_utc ((Moment.back_zone hback).trans hz) hoff
  exact (range_isDated_iff (Moment.dated_of_utc hz hnow) hreference.2).2
    ⟨hreference.1, hoffset.1, .inr hoffset.2⟩

end Options

theorem Range.exists_document_iff {α : Type} {result : Except Failure Range} {range : Range}
    {f : Range → Json.Value → α} (h : result = .ok range) :
    (∃ a, (do
      let range ← result
      let value ← range.toValue.mapError Failure.calendar
      return f range value) = .ok a) ↔ range.IsDated := by
  rw [h, ← Range.exists_toValue_iff]
  constructor
  · rintro ⟨a, ha⟩
    obtain ⟨r, hr, ha⟩ := Except.bind_eq_ok_iff.1 ha
    cases hr
    obtain ⟨v, hv, -⟩ := Except.bind_eq_ok_iff.1 ha
    exact ⟨v, Except.mapError_eq_ok_iff.1 hv⟩
  · rintro ⟨v, hv⟩
    exact ⟨f range v, Except.bind_eq_ok_iff.2 ⟨range, rfl,
      Except.bind_eq_ok_iff.2 ⟨v, Except.mapError_eq_ok_iff.2 hv, rfl⟩⟩⟩

theorem Console.resolved_of_descriptor {session : Session} {key : String} {d : Descriptor}
    {ds : List Diagnostic} (hd : session.resolver.options.descriptor (.key (.string key)) = .ok (d, ds))
    (reading : Reading) :
    let outcome := session.resolver.resolve (.key (.string key)) reading
    resolved session key reading = outcome.told do
      let range ← outcome.result
      let value ← range.toValue.mapError .calendar
      return shownWith (.object [("key", .string d.key), ("range", value)]) range := by
  intro outcome
  have houtcome : outcome = session.resolver.resolve (.key (.string key)) reading := rfl
  rw [Resolver.resolve, hd] at houtcome
  rw [resolved, Resolver.parse, Resolver.described, hd, houtcome]
  simp only [Outcome.told, Resolver.resolve, Sink.report, List.map_append]
  rfl

theorem Console.resolved_result_iff {session : Session} {key : String} {reading : Reading}
    {range : Range}
    (h : (session.resolver.resolve (.key (.string key)) reading).result = .ok range) :
    (Console.resolved session key reading).result = .ok () ↔ range.IsDated := by
  obtain ⟨d, ds, hd⟩ := Resolver.exists_descriptor_of_resolve h
  rw [← Range.exists_document_iff h (f := fun range value =>
    shownWith (.object [("key", .string d.key), ("range", value)]) range), resolved_of_descriptor hd]
  change Except.map _ _ = _ ↔ _
  rw [Except.map_eq_ok_iff]
  simp only [and_true]

theorem Normalization.resolveStage_result_iff {setup : Setup} {stage : Stage} {d : Descriptor}
    {reading : Reading} {range : Range} (hd : stage.descriptor = some d)
    (h : (setup.resolver.resolve (.descriptor d) reading).result = .ok range) :
    (∃ n, (resolveStage setup stage reading).result = .ok n) ↔ range.IsDated := by
  rw [← Range.exists_document_iff h (f := fun range value =>
    (⟨stage.text, stage.phrase, stage.source, d, range, value⟩ : Normalized)), resolveStage, hd]

namespace Resolver

variable {r : Resolver} {target : Target} {reading : Reading} {t : Moment}

/-- When a resolved range can be written out, for every reading that a clock of universal time shows
in a zone: exactly if the two instants that it is made of are within the calendar of universal time.
-/
theorem resolve_rendered_iff {u : Wall} {range : Range} (hface : r.face.moment reading = .ok t)
    (hshows : t.Shows u) (hzone : t.zone ≠ .floating)
    (hresolve : (r.resolve target reading).result = .ok range) :
    ∃ (d : Descriptor) (ds : List Diagnostic) (start : Moment) (reference offset : Int),
      r.options.descriptor target = .ok (d, ds) ∧
      (r.options.referenceMoment d.reference t = .ok start ∧ start.epochMillis = .ok reference ∧
        (Options.offsetMoment d t).1.epochMillis = .ok offset) ∧
      (range.IsDated ↔ firstMillis ≤ reference ∧ firstMillis ≤ offset ∧
        (r.options.untilNow = true ∨ offset ≤ lastMillis)) ∧
      ((Options.offsetMoment d t).2 ≠ [] ∨ d.unit.isElapsed = true → Dated offset) ∧
      (t.zone = .utc → range.IsDated) ∧
      ((∃ v, range.toValue = .ok v) ↔ range.IsDated) ∧
      (((∃ t, range.startMoment .utc = .ok t) ∧ ∃ t, range.finishMoment .utc = .ok t) ↔
        range.IsDated) ∧
      (∀ (session : Session) (key : String), session.resolver = r → target = .key (.string key) →
        ((Console.resolved session key reading).result = .ok () ↔ range.IsDated)) ∧
      ∀ (setup : Normalization.Setup) (stage : Normalization.Stage), setup.resolver = r →
        stage.descriptor = some d →
        ((∃ n, (Normalization.resolveStage setup stage reading).result = .ok n) ↔
          range.IsDated) := by
  obtain ⟨d, ds, hd⟩ := exists_descriptor_of_resolve hresolve
  have hat := (resolve_eq_ok_iff hd hface).1 hresolve
  obtain ⟨start, reference, offset, now, hstart, href, hoff, hnow, hrange⟩ :=
    Options.exists_instants hat
  have hle := Options.reference_le_lastMillis hstart hshows hzone href
  have hiff : range.IsDated ↔ firstMillis ≤ reference ∧ firstMillis ≤ offset ∧
      (r.options.untilNow = true ∨ offset ≤ lastMillis) := by
    rw [hrange]
    exact Options.range_isDated_iff (hshows.dated hzone hnow) hle
  refine ⟨d, ds, start, reference, offset, hd, ⟨hstart, href, hoff⟩, hiff, Options.offset_dated hzone hoff,
    fun hutc => Options.isDated_of_utc hutc hat, Range.exists_toValue_iff,
    Range.exists_moments_iff, ?_, ?_⟩
  · rintro session key rfl rfl
    exact Console.resolved_result_iff hresolve
  · rintro setup stage rfl hstage
    have hsame : (setup.resolver.resolve (.descriptor d) reading).result = .ok range :=
      (resolve_eq_ok_iff rfl hface).2 hat
    exact Normalization.resolveStage_result_iff hstage hsame

/-- Fourteen hours east, in the morning of the second day: a day counted in hours is cut off where
the calendar of universal time begins. -/
theorem resolve_rendered_iff_hours :
    let r : Resolver := { face := .wall (.fixed 50400) }
    let target : Target := .descriptor (Window.descriptor ⟨.hour, 24, .now⟩)
    let reading : Reading := ⟨⟨-62135474400000000, by decide, by decide⟩, false⟩
    let range : Range := ⟨-62135596800000, -62135524800000⟩
    (r.resolve target reading).result = .ok range ∧ ∃ v, range.toValue = .ok v := by
  intro r target reading range
  let t : Moment := ⟨reading.wall, false, .fixed 50400⟩
  let u : Wall := ⟨-62135524800000000, by decide, by decide⟩
  have hshows : t.Shows u := by
    rw [Moment.Shows]
    decide +kernel
  have hface : r.face.moment reading = .ok t := rfl
  have hresolve : (r.resolve target reading).result = .ok range :=
    (resolve_eq_ok_iff rfl hface).2 (by decide +kernel)
  obtain ⟨d, ds, start, reference, offset, -, -, -, -, -, hvalue, -⟩ :=
    resolve_rendered_iff hface hshows Zone.noConfusion hresolve
  exact ⟨hresolve, hvalue.2 ⟨⟨by decide, by decide⟩, by decide, by decide⟩⟩

/-- A day counted on the wall leads to a time of the calendar there, which universal time has not.
-/
theorem resolve_not_rendered_day :
    let r : Resolver := { face := .wall (.fixed 50400) }
    let target : Target := .key (.ofText "unit=(Day)&count=(1)&referenceTime=(now)")
    let reading : Reading := ⟨⟨-62135474400000000, by decide, by decide⟩, false⟩
    let range : Range := ⟨-62135611200000, -62135524800000⟩
    (r.resolve target reading).result = .ok range ∧ range.start < firstMillis ∧
      range.toValue = .error .beyondRange := by
  intro r target reading range
  let t : Moment := ⟨reading.wall, false, .fixed 50400⟩
  have hface : r.face.moment reading = .ok t := rfl
  have hread : Key.read "unit=(Day)&count=(1)&referenceTime=(now)" = .ok ⟨.day, 1, .now⟩ := by cbv
  have hd := r.options.descriptor_of_read hread
  exact ⟨(resolve_eq_ok_iff hd hface).2 (by decide +kernel), by decide, rfl⟩

end Resolver

end TimeWindow
