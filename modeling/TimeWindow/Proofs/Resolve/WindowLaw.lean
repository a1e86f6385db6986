import TimeWindow.Proofs.Calendar.Northern
import TimeWindow.Proofs.Resolve.Offset
import TimeWindow.Proofs.Resolve.Reference

/-!
The law of windows. The reference instant is never after now, and the offset lies on the side of now
that the sign of the count tells, so the range of a window can be read off the sign.
-/

namespace TimeWindow

open Calendar (CalendarError Moment Wall YearlyRules Zone)

namespace Range

theorem between_eq (a b : Int) : between a b = ⟨min a b, max a b⟩ := by
  rw [between]
  split
  · rw [Int.min_eq_left (by omega), Int.max_eq_right (by omega)]
  · rw [Int.min_eq_right (by omega), Int.max_eq_left (by omega)]

theorem cutAt_of_le {range : Range} {limit : Int} (h : range.finish ≤ limit) :
    range.cutAt limit = range := by
  rw [cutAt, if_neg (by omega)]

end Range

namespace Options

variable {o : Options} {d : Descriptor} {t : Moment} {u : Wall} {reference offset now : Int}

theorem range_of_le (href : reference ≤ now) (hoff : offset ≤ now) :
    o.range reference offset now = ⟨min offset reference, max offset reference⟩ := by
  rw [range, Range.between_eq]
  split
  · exact Range.cutAt_of_le (Int.max_le.2 ⟨hoff, href⟩)
  · rfl

theorem range_now (hoff : offset ≤ now) : o.range now offset now = ⟨offset, now⟩ := by
  rw [range_of_le (Int.le_refl now) hoff, Int.min_eq_left hoff, Int.max_eq_right hoff]

theorem range_of_ge (href : reference ≤ now) (hoff : now ≤ offset) :
    o.range reference offset now = ⟨reference, if o.untilNow then now else offset⟩ := by
  rw [range, Range.between_eq, Int.min_eq_right (by omega), Int.max_eq_left (by omega)]
  split
  · rw [Range.cutAt]
    split
    · rfl
    · rename_i hcut
      change ¬now < offset at hcut
      congr 1
      omega
  · rfl

theorem referenceMoment_precedes {reference : Reference} {start : Moment} (hne : reference ≠ .now)
    (h : o.referenceMoment reference t = .ok start) : start.Precedes t := by
  obtain ⟨hwall, hsecond, hzone⟩ := (referenceMoment_eq_ok_iff hne).1 h
  have hday := reference.firstDay_le o.weekStart t.wall.day
  refine ⟨hzone, ?_, ⟨reference.firstDay o.weekStart t.wall.day * 86400, ?_⟩, fun hs => ?_⟩
  · simp only [Wall.day, Calendar.dayMicros] at *
    omega
  · simp only [Calendar.dayMicros, Calendar.secondMicros] at *
    omega
  · rw [hsecond, Bool.and_eq_true] at hs
    exact hs.1

theorem reference_le {start : Moment} (h : o.referenceMoment d.reference t = .ok start)
    (hu : t.Shows u) (hz : t.zone.Lasting) (hstart : start.epochMillis = .ok reference)
    (hnow : t.epochMillis = .ok now) : reference ≤ now := by
  by_cases hne : d.reference = .now
  · rw [hne] at h
    cases h
    cases hstart.symm.trans hnow
    exact Int.le_refl _
  · rw [hu.epochMillis_eq hz.ne_floating hnow]
    exact (referenceMoment_precedes hne h).epochMillis_le hu hz hstart

theorem offset_side (hu : t.Shows u) (hz : t.zone.Lasting) (hnow : t.epochMillis = .ok now)
    (hoffset : (offsetMoment d t).1.epochMillis = .ok offset) :
    (0 ≤ d.count → offset ≤ now) ∧ (d.count < 0 → now ≤ offset) := by
  cases hback : t.back d.count d.unit with
  | ok t' =>
    rw [offsetMoment_of_ok hback] at hoffset
    exact Moment.back_side hz.savesWithinDay hnow hback hoffset
  | error e =>
    have hfirst := u.first_le
    have hlast := u.le_last
    have hinstant := hu.epochMillis_eq hz.ne_floating hnow
    have hnone : ∀ t', t.back d.count d.unit ≠ .ok t' := by
      intro t' h
      rw [hback] at h
      cases h
    rw [offsetMoment_of_forall_ne hnone] at hoffset
    by_cases hpos : 0 < d.count
    · rw [if_pos hpos] at hoffset
      cases (Moment.epochMillis_utc .first false).symm.trans hoffset
      change (_ → Calendar.firstMicros / 1000 ≤ _) ∧ _
      omega
    · rw [if_neg hpos] at hoffset
      cases (Moment.epochMillis_utc .last false).symm.trans hoffset
      have hneg : d.count ≠ 0 := by
        intro hzero
        have hzeroBack := hu.back_zero hz.ne_floating hnow d.unit
        rw [← hzero] at hzeroBack
        exact hnone _ hzeroBack
      change _ ∧ (_ → _ ≤ Calendar.lastMicros / 1000)
      omega

theorem exists_instants {range : Range} (h : (o.resolveAt d t).1 = .ok range) :
    ∃ start reference offset now, o.referenceMoment d.reference t = .ok start ∧
      start.epochMillis = .ok reference ∧ (offsetMoment d t).1.epochMillis = .ok offset ∧
        t.epochMillis = .ok now ∧ range = o.range reference offset now := by
  rw [resolveAt] at h
  split at h
  · cases h
  · rename_i reference href
    obtain ⟨start, hstart, hreference⟩ := Except.bind_eq_ok_iff.1 href
    obtain ⟨offset, hoffset, h⟩ := Except.bind_eq_ok_iff.1 h
    obtain ⟨now, hnow, h⟩ := Except.bind_eq_ok_iff.1 h
    cases h
    exact ⟨start, reference, offset, now, hstart, hreference, hoffset, hnow, rfl⟩

theorem resolveAt_now (href : d.reference = .now) (hnow : t.epochMillis = .ok now) :
    (o.resolveAt d t).1 =
      (offsetMoment d t).1.epochMillis.map fun offset => o.range now offset now := by
  have hreference : (o.referenceMoment d.reference t).bind Moment.epochMillis = .ok now := by
    rw [href]
    exact hnow
  simp only [resolveAt, hreference, hnow]
  cases (offsetMoment d t).1.epochMillis <;> rfl

end Options

namespace Resolver

def cutting (r : Resolver) (untilNow : Bool) : Resolver :=
  { r with options := { r.options with untilNow } }

variable {r : Resolver} {target : Target} {reading : Reading} {t start : Moment}
  {d : Descriptor} {ds : List Diagnostic} {reference offset now : Int}

theorem descriptor_cutting (untilNow : Bool) :
    (r.cutting untilNow).options.descriptor target = r.options.descriptor target := by
  cases target <;> rfl

theorem resolve_cutting (untilNow : Bool) (hd : r.options.descriptor target = .ok (d, ds))
    (hface : r.face.moment reading = .ok t)
    (hstart : r.options.referenceMoment d.reference t = .ok start)
    (href : start.epochMillis = .ok reference)
    (hoff : (Options.offsetMoment d t).1.epochMillis = .ok offset) (hnow : t.epochMillis = .ok now) :
    ((r.cutting untilNow).resolve target reading).result =
      .ok ((r.cutting untilNow).options.range reference offset now) := by
  have hface' : (r.cutting untilNow).face.moment reading = .ok t := hface
  rw [resolve_of_moment ((descriptor_cutting untilNow).trans hd) hface',
    Options.resolveAt_eq (o := (r.cutting untilNow).options) hstart href hoff hnow]
  rfl

/-- The law of windows, for every clock reading that the wall of a lasting zone shows. -/
theorem resolve_window_law {u : Wall} {range : Range} (hface : r.face.moment reading = .ok t)
    (hshows : t.Shows u) (hzone : t.zone.Lasting)
    (hresolve : (r.resolve target reading).result = .ok range) :
    ∃ (d : Descriptor) (ds : List Diagnostic) (start : Moment) (reference offset now : Int),
      r.options.descriptor target = .ok (d, ds) ∧
      (t.epochMillis = .ok now ∧ r.options.referenceMoment d.reference t = .ok start ∧
        start.epochMillis = .ok reference ∧
        (Options.offsetMoment d t).1.epochMillis = .ok offset) ∧
      (range.start ≤ range.finish ∧ (r.options.untilNow = true → range.finish ≤ now)) ∧
      (0 ≤ d.count → max offset reference ≤ now ∧
        ∀ untilNow, ((r.cutting untilNow).resolve target reading).result =
          .ok ⟨min offset reference, max offset reference⟩) ∧
      (d.count < 0 →
        ((r.cutting true).resolve target reading).result = .ok ⟨reference, now⟩ ∧
        ((r.cutting false).resolve target reading).result = .ok ⟨reference, offset⟩) ∧
      (d.count < 0 → d.reference = .now →
        ((r.cutting true).resolve target reading).result = .ok ⟨now, now⟩) := by
  obtain ⟨d, ds, hd⟩ := exists_descriptor_of_resolve hresolve
  rw [resolve_of_moment hd hface] at hresolve
  obtain ⟨start, reference, offset, now, hstart, href, hoff, hnow, hrange⟩ :=
    Options.exists_instants (Except.mapError_eq_ok_iff.1 hresolve)
  have hle := Options.reference_le hstart hshows hzone href hnow
  obtain ⟨hback, hahead⟩ := Options.offset_side hshows hzone hnow hoff
  have hcutting := fun untilNow => resolve_cutting untilNow hd hface hstart href hoff hnow
  have hforced : d.count < 0 →
      ((r.cutting true).resolve target reading).result = .ok ⟨reference, now⟩ := by
    intro hneg
    rw [hcutting true, Options.range_of_ge hle (hahead hneg)]
    rfl
  refine ⟨d, ds, start, reference, offset, now, hd, ⟨hnow, hstart, href, hoff⟩, ?_, ?_, ?_, ?_⟩
  · rw [hrange]
    rcases Int.lt_or_le d.count 0 with hneg | hpos
    · have := hahead hneg
      rw [Options.range_of_ge hle this]
      dsimp only
      split
      · exact ⟨hle, fun _ => Int.le_refl now⟩
      · exact ⟨by omega, fun h => absurd h ‹_›⟩
    · rw [Options.range_of_le hle (hback hpos)]
      have := hback hpos
      dsimp only
      omega
  · intro hpos
    refine ⟨Int.max_le.2 ⟨hback hpos, hle⟩, ?_⟩
    intro untilNow
    rw [hcutting untilNow, Options.range_of_le hle (hback hpos)]
  · intro hneg
    refine ⟨hforced hneg, ?_⟩
    rw [hcutting false, Options.range_of_ge hle (hahead hneg)]
    rfl
  · intro hneg hreference
    have hsame : reference = now := by
      rw [hreference] at hstart
      cases hstart
      cases href.symm.trans hnow
      rfl
    rw [hforced hneg, hsame]

/-- In the hour that is shown twice when daylight time ends, on the Sunday that begins the week. -/
theorem resolve_window_law_repeated_hour :
    let rules : YearlyRules := ⟨3600, 7200, ⟨3, 5, 0, 7200⟩, ⟨10, 5, 0, 10800⟩⟩
    let r : Resolver := { face := .universal rules.zone }
    let target : Target := .descriptor (Window.descriptor ⟨.week, -3, .thisWeek⟩)
    let reading : Reading := ⟨⟨1792891800000000, by decide, by decide⟩, false⟩
    ((r.cutting true).resolve target reading).result = .ok ⟨1792879200000, 1792891800000⟩ ∧
      ((r.cutting false).resolve target reading).result = .ok ⟨1792879200000, 1794706200000⟩ := by
  intro rules r target reading
  let t : Moment := ⟨⟨1792895400000000, by decide, by decide⟩, true, rules.zone⟩
  have hnorth : rules.Northern := by
    refine ⟨⟨?_, ?_, ?_, ?_⟩, ⟨?_, ?_, ?_, ?_⟩, ?_, ?_, ?_, ?_, ?_⟩ <;> decide
  have hface : r.face.moment reading = .ok t := by decide +kernel
  have hresolve : (r.resolve target reading).result = .ok ⟨1792879200000, 1792891800000⟩ := by
    have hat : (r.options.resolveAt (Window.descriptor ⟨.week, -3, .thisWeek⟩) t).1 =
        .ok ⟨1792879200000, 1792891800000⟩ := by decide +kernel
    rw [resolve_of_moment rfl hface]
    exact Except.mapError_eq_ok_iff.2 hat
  obtain ⟨d, ds, start, reference, offset, now, hd, ⟨hnow, hstart, href, hoff⟩, -, -, hneg, -⟩ :=
    resolve_window_law hface hface (hnorth.zone_lasting (by decide) (by decide)) hresolve
  cases hd
  have hnow' : t.epochMillis = .ok 1792891800000 := by decide +kernel
  have hoff' : (Options.offsetMoment (Window.descriptor ⟨.week, -3, .thisWeek⟩) t).1.epochMillis =
      .ok 1794706200000 := by decide +kernel
  have hstart' : (t.startOfWeek .sunday).bind Moment.epochMillis = .ok 1792879200000 := by
    decide +kernel
  cases hnow.symm.trans hnow'
  cases hoff.symm.trans hoff'
  cases (Except.bind_eq_ok_iff.2 ⟨start, hstart, href⟩).symm.trans hstart'
  exact hneg (by decide)

end Resolver

end TimeWindow
