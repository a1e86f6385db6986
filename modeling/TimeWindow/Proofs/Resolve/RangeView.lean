import TimeWindow.Proofs.Calendar.Stamped
import TimeWindow.Proofs.Resolve.Rendering

/-!
The ends of a range as moments of a zone and as time stamps. A moment that is shown stands for the
milliseconds that it was made from and for no others, and the stamps of a document name the ends of
the range. An end is not shown if it is outside the calendar, in universal time or in its zone, and
where the zone bars it.
-/

namespace TimeWindow

open Calendar (CalendarError Dated InCalendar Moment Wall YearlyRules Zone dayMicros firstMicros
  firstMillis lastMicros lastMillis secondMicros)

namespace Calendar

variable {zone : Zone} {ms : Int}

theorem inCalendar_millis_iff : InCalendar (ms * 1000) ↔ Dated ms := by
  simp only [InCalendar, Dated, firstMillis, lastMillis, firstMicros, lastMicros]
  omega

/-- What a zone shows of an instant in milliseconds stands for the instant and tells it. -/
structure Denotes (zone : Zone) (ms : Int) (view : Except CalendarError Moment) : Prop where
  wall_eq : ∀ t, view = .ok t → t.zone = zone ∧ t.wall.micros = zone.shownAt (ms * 1000)
  epochMillis_eq : ∀ t, view = .ok t →
    t.epochMillis = if (zone.shownAt (ms * 1000) - ms * 1000).natAbs < dayMicros.natAbs
      then .ok ms else .error .dayApart
  near : zone.Near → ∀ t, view = .ok t → t.epochMillis = .ok ms
  only : ∀ t ms' t', view = .ok t → Moment.ofEpochMillis zone ms' = .ok t' → t'.wall = t.wall →
    t'.second = t.second → ms' = ms
  fails_iff : (∃ e, view = .error e) ↔
    ¬Dated ms ∨ ¬InCalendar (zone.shownAt (ms * 1000)) ∨ zone.Bars (ms * 1000)
  undated : ¬Dated ms → view = .error .beyondRange
  failure : ∀ e, view = .error e → e = .beyondRange ∨ e = .dayApart ∧ ¬zone.Near

theorem denotes_ofEpochMillis (hz : zone ≠ .floating) (ms : Int) :
    Denotes zone ms (Moment.ofEpochMillis zone ms) where
  wall_eq _ h := Moment.wall_of_ofEpochMillis h
  epochMillis_eq _ h := Moment.epochMillis_of_ofEpochMillis hz h
  near hnear t h := by
    rw [Moment.epochMillis_of_ofEpochMillis hz h, if_pos (hnear.shownAt_sub_lt _)]
  only _ _ _ h h' := Moment.ofEpochMillis_inj h h'
  fails_iff := by
    have hshown := @Moment.exists_ofEpochMillis_iff zone ms
    rw [inCalendar_millis_iff] at hshown
    rw [← not_iff_not, Except.not_exists_error_iff, hshown]
    simp only [not_or, not_not]
  undated h := Moment.ofEpochMillis_of_not_inCalendar (mt inCalendar_millis_iff.1 h)
  failure _ h := Moment.not_near_of_ofEpochMillis h

/-- A stamp of universal time that names an instant in milliseconds, with a fraction if it needs
one. -/
structure Stamp.Names (s : String) (ms : Int) : Prop where
  instant_eq : Stamp.instant? s = some (ms * 1000)
  point_iff : '.' ∈ s.toList ↔ ¬1000 ∣ ms

theorem Stamp.names_of_utc {t : Moment} {s : String} (h : Moment.ofEpochMillis .utc ms = .ok t)
    (hs : t.stamp = .ok s) : Stamp.Names s ms := by
  obtain ⟨hzone, hwall⟩ := Moment.wall_of_ofEpochMillis h
  have hmicros : t.wall.micros = ms * 1000 := by
    rw [hwall, Zone.utc, Zone.shownAt]
    omega
  obtain ⟨o, ho, hinstant, hpoint⟩ := Moment.instant?_stamp (by simp [hzone, Zone.utc]) hs
  rw [hzone] at ho
  cases ho
  refine ⟨?_, ?_⟩
  · rw [hinstant, Moment.instant, hmicros, Int.zero_mul, Int.sub_zero]
  · rw [hpoint, hmicros]
    simp only [secondMicros]
    omega

end Calendar

namespace Range

open Calendar (Denotes)

/-- The views of a range denote its milliseconds, and so do the stamps of its document. -/
theorem views_denote_millis {zone : Zone} (hz : zone ≠ .floating) (range : Range) :
    Denotes zone range.start (range.startMoment zone) ∧
    Denotes zone range.finish (range.finishMoment zone) ∧
    ((∃ v, range.toValue = .ok v) ↔ Dated range.start ∧ Dated range.finish) ∧
    ∀ v, range.toValue = .ok v → ∃ start finish : String,
      v = .object [("startTime", .int range.start), ("endTime", .int range.finish),
        ("start_datetime", .string start), ("end_datetime", .string finish)] ∧
      Calendar.Stamp.Names start range.start ∧ Calendar.Stamp.Names finish range.finish := by
  refine ⟨Calendar.denotes_ofEpochMillis hz range.start,
    Calendar.denotes_ofEpochMillis hz range.finish, exists_toValue_iff, fun v hv => ?_⟩
  obtain ⟨t, ht, hv⟩ := Except.bind_eq_ok_iff.1 hv
  obtain ⟨start, hstart, hv⟩ := Except.bind_eq_ok_iff.1 hv
  obtain ⟨t', ht', hv⟩ := Except.bind_eq_ok_iff.1 hv
  obtain ⟨finish, hfinish, hv⟩ := Except.bind_eq_ok_iff.1 hv
  cases hv
  exact ⟨start, finish, rfl, Calendar.Stamp.names_of_utc ht hstart,
    Calendar.Stamp.names_of_utc ht' hfinish⟩

/-- Half past one in the night that daylight time ends, in both passes. -/
theorem views_denote_millis_repeated_hour :
    let rules : YearlyRules := ⟨-18000, -14400, ⟨3, 2, 0, 7200⟩, ⟨11, 1, 0, 7200⟩⟩
    let wall : Wall := ⟨1793496600000000, by decide, by decide⟩
    let range : Range := ⟨1793511000000, 1793514600000⟩
    range.startMoment rules.zone = .ok ⟨wall, false, rules.zone⟩ ∧
      range.finishMoment rules.zone = .ok ⟨wall, true, rules.zone⟩ ∧
      Moment.epochMillis ⟨wall, false, rules.zone⟩ = .ok 1793511000000 ∧
      Moment.epochMillis ⟨wall, true, rules.zone⟩ = .ok 1793514600000 ∧
      ∃ v, range.toValue = .ok v := by
  intro rules wall range
  have hstart : range.startMoment rules.zone = .ok ⟨wall, false, rules.zone⟩ := by decide +kernel
  have hfinish : range.finishMoment rules.zone = .ok ⟨wall, true, rules.zone⟩ := by decide +kernel
  have hzone : rules.zone = .seasonal ⟨.yearly rules, -18000, -14400, by decide⟩ := by decide +kernel
  have hfloating : rules.zone ≠ .floating := by simp [hzone]
  have hnear : rules.zone.Near := by
    rw [hzone]
    exact ⟨by decide, by decide, by decide⟩
  obtain ⟨hfirst, hsecond, hvalue, -⟩ := views_denote_millis hfloating range
  exact ⟨hstart, hfinish, hfirst.near hnear _ hstart, hsecond.near hnear _ hfinish,
    hvalue.2 ⟨⟨by decide, by decide⟩, by decide, by decide⟩⟩

/-- In the first hour of the calendar a wall with an hour of daylight time cannot be looked up an
hour earlier, and where daylight time is a day ahead of universal time what the wall shows has no
place in time. -/
theorem view_refused_though_dated :
    let west : YearlyRules := ⟨-18000, -14400, ⟨3, 2, 0, 7200⟩, ⟨11, 1, 0, 7200⟩⟩
    let east : YearlyRules := ⟨82800, 86400, ⟨3, 5, 0, 3600⟩, ⟨10, 5, 0, 7200⟩⟩
    (Dated (-62135577000000) ∧ InCalendar (west.zone.shownAt (-62135577000000 * 1000)) ∧
      (⟨-62135577000000, -62135577000000⟩ : Range).startMoment west.zone = .error .beyondRange) ∧
    ∃ t, (⟨1774666800000, 1774666800000⟩ : Range).startMoment east.zone = .ok t ∧
      t.epochMillis = .error .dayApart := by
  intro west east
  refine ⟨⟨⟨by decide, by decide⟩, ⟨by decide +kernel, by decide +kernel⟩, by decide +kernel⟩,
    ⟨⟨1774753200000000, by decide, by decide⟩, false, east.zone⟩, ?_, ?_⟩
  · decide +kernel
  · decide +kernel

end Range

end TimeWindow
