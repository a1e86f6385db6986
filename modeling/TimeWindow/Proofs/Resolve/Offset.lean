import TimeWindow.Proofs.Key.RoundTrip
import TimeWindow.Proofs.Calendar.Back
import TimeWindow.Proofs.Resolve.Reference
import TimeWindow.Resolver

/-!
The offset of a window in universal time is the exact result of going back, as far as the calendar
reaches. Only a result outside of the years 1 to 9999 is reported, and then the end of the calendar
on its side takes its place, although it is chosen by the sign of the count alone.
-/

namespace TimeWindow

open Calendar (CalendarError Moment Wall daysInMonth monthsOf yearOfMicros)

namespace Options

variable {d : Descriptor} {now t : Moment}

theorem offsetMoment_of_ok (h : now.back d.count d.unit = .ok t) : offsetMoment d now = (t, []) := by
  rw [offsetMoment, h]

theorem offsetMoment_of_forall_ne (h : ∀ t, now.back d.count d.unit ≠ .ok t) :
    offsetMoment d now =
      if 0 < d.count then (.earliest, [.offsetOutOfRange d.key .first])
      else (.latest, [.offsetOutOfRange d.key .last]) := by
  rw [offsetMoment]
  cases hback : now.back d.count d.unit with
  | ok t => exact absurd hback (h t)
  | error e =>
    dsimp only
    split <;> rfl

theorem offsetMoment_cases (d : Descriptor) (now : Moment) :
    (offsetMoment d now).1.zone = .utc ∨
      now.back d.count d.unit = .ok (offsetMoment d now).1 := by
  rw [offsetMoment]
  cases now.back d.count d.unit with
  | ok t => exact .inr rfl
  | error e =>
    refine .inl ?_
    dsimp only
    split <;> rfl

theorem resolveAt_eq {o : Options} {reference : Moment} {start offset finish : Int}
    (href : o.referenceMoment d.reference now = .ok reference)
    (hstart : reference.epochMillis = .ok start)
    (hoffset : (offsetMoment d now).1.epochMillis = .ok offset)
    (hnow : now.epochMillis = .ok finish) :
    o.resolveAt d now = (.ok (o.range start offset finish), (offsetMoment d now).2) := by
  have hinstant : (o.referenceMoment d.reference now).bind Moment.epochMillis = .ok start := by
    rw [href]
    exact hstart
  simp only [resolveAt, hinstant, hoffset, hnow]
  rfl

variable {w : Wall} {second : Bool}

theorem offsetMoment_utc_of_range (second : Bool) {v : Wall} (h : v.micros = w.exactBack d.count d.unit) :
    offsetMoment d ⟨w, second, .utc⟩ = (⟨v, false, .utc⟩, []) :=
  offsetMoment_of_ok (Moment.back_utc_eq_ok_iff.2 ⟨v, h, rfl⟩)

theorem back_utc_ne_ok
    (h : ¬(1 ≤ yearOfMicros (w.exactBack d.count d.unit) ∧
      yearOfMicros (w.exactBack d.count d.unit) ≤ 9999)) (t : Moment) :
    Moment.back ⟨w, second, .utc⟩ d.count d.unit ≠ .ok t := by
  intro hback
  obtain ⟨v, hv, -⟩ := Moment.back_utc_eq_ok_iff.1 hback
  rw [← hv] at h
  exact h v.year_bounds

theorem count_pos_of_year_lt (h : yearOfMicros (w.exactBack d.count d.unit) < 1) : 0 < d.count := by
  have hfirst := mt (Calendar.one_le_yearOfMicros_iff _).2 (Int.not_le.2 h)
  have hw := w.first_le
  by_contra hneg
  rcases Int.lt_or_eq_of_le (Int.not_lt.1 hneg) with hlt | hzero
  · have := w.lt_exactBack d.unit hlt
    omega
  · rw [hzero, w.exactBack_zero] at hfirst
    exact hfirst hw

theorem count_neg_of_lt_year (h : 9999 < yearOfMicros (w.exactBack d.count d.unit)) :
    d.count < 0 := by
  have hlast := mt (Calendar.yearOfMicros_le_iff _).2 (Int.not_le.2 h)
  have hw := w.le_last
  by_contra hpos
  have := w.exactBack_le d.unit (Int.not_lt.1 hpos)
  omega

theorem offsetMoment_utc_of_before (second : Bool)
    (h : yearOfMicros (w.exactBack d.count d.unit) < 1) :
    offsetMoment d ⟨w, second, .utc⟩ = (.earliest, [.offsetOutOfRange d.key .first]) := by
  rw [offsetMoment_of_forall_ne (back_utc_ne_ok (by omega)), if_pos (count_pos_of_year_lt h)]

theorem offsetMoment_utc_of_after (second : Bool)
    (h : 9999 < yearOfMicros (w.exactBack d.count d.unit)) :
    offsetMoment d ⟨w, second, .utc⟩ = (.latest, [.offsetOutOfRange d.key .last]) := by
  have hneg := count_neg_of_lt_year h
  rw [offsetMoment_of_forall_ne (back_utc_ne_ok (by omega)), if_neg (by omega)]

theorem offsetMoment_utc (d : Descriptor) (w : Wall) (second : Bool) :
    (offsetMoment d ⟨w, second, .utc⟩).1 =
      ⟨.nearest (w.exactBack d.count d.unit), false, .utc⟩ := by
  by_cases hfirst : yearOfMicros (w.exactBack d.count d.unit) < 1
  · have hout := mt (Calendar.one_le_yearOfMicros_iff _).2 (Int.not_le.2 hfirst)
    rw [offsetMoment_utc_of_before second hfirst, Wall.nearest_of_le (by omega)]
    rfl
  · by_cases hlast : 9999 < yearOfMicros (w.exactBack d.count d.unit)
    · have hout := mt (Calendar.yearOfMicros_le_iff _).2 (Int.not_le.2 hlast)
      rw [offsetMoment_utc_of_after second hlast, Wall.nearest_of_ge (by omega)]
      rfl
    · have hle := (Calendar.one_le_yearOfMicros_iff _).1 (Int.not_lt.1 hfirst)
      have hge := (Calendar.yearOfMicros_le_iff _).1 (Int.not_lt.1 hlast)
      rw [offsetMoment_utc_of_range second (Wall.micros_nearest hle hge)]

end Options

namespace Resolver

variable {r : Resolver} {target : Target} {reading : Reading} {now : Moment}
  {d : Descriptor} {ds : List Diagnostic}

theorem resolve_of_unwritable (h : target.writable = false) :
    r.resolve target reading = { result := .error (.count .unwritable) } := by
  rw [resolve, r.options.descriptor_of_unwritable h]

theorem resolve_of_moment (hd : r.options.descriptor target = .ok (d, ds))
    (hnow : r.face.moment reading = .ok now) :
    r.resolve target reading =
      { result := (r.options.resolveAt d now).1.mapError .calendar
        events := r.sink.report (ds ++ (r.options.resolveAt d now).2)
        reads := 1 } := by
  simp only [resolve, hd, hnow]

theorem resolve_eq_ok_iff {range : Range} (hd : r.options.descriptor target = .ok (d, ds))
    (hnow : r.face.moment reading = .ok now) :
    (r.resolve target reading).result = .ok range ↔ (r.options.resolveAt d now).1 = .ok range := by
  rw [resolve_of_moment hd hnow, Except.mapError_eq_ok_iff]

theorem resolve_eq_error_iff {f : Failure} (hd : r.options.descriptor target = .ok (d, ds))
    (hnow : r.face.moment reading = .ok now) :
    (r.resolve target reading).result = .error f ↔
      ∃ e, (r.options.resolveAt d now).1 = .error e ∧ f = .calendar e := by
  rw [resolve_of_moment hd hnow, Except.mapError_eq_error_iff]

theorem exists_descriptor_of_resolve {range : Range}
    (h : (r.resolve target reading).result = .ok range) :
    ∃ d ds, r.options.descriptor target = .ok (d, ds) := by
  apply r.options.exists_descriptor
  by_contra hunwritable
  rw [resolve_of_unwritable (Bool.eq_false_iff.2 hunwritable)] at h
  cases h

variable {w : Wall} {second : Bool}

theorem resolve_of_offset {offset : Wall} {reported : List Diagnostic} {reference : Moment}
    (hd : r.options.descriptor target = .ok (d, ds))
    (hnow : r.face.moment reading = .ok ⟨w, second, .utc⟩)
    (hoffset : Options.offsetMoment d ⟨w, second, .utc⟩ = (⟨offset, false, .utc⟩, reported))
    (href : r.options.referenceMoment d.reference ⟨w, second, .utc⟩ = .ok reference) :
    (r.resolve target reading).result = .ok (r.options.range (reference.wall.micros / 1000)
        (offset.micros / 1000) (w.micros / 1000)) ∧
      (r.resolve target reading).events = r.sink.report (ds ++ reported) := by
  obtain ⟨wall, pass, zone⟩ := reference
  cases Options.referenceMoment_zone href
  have hinstant : (Options.offsetMoment d ⟨w, second, .utc⟩).1.epochMillis =
      .ok (offset.micros / 1000) := by
    rw [hoffset]
    exact Moment.epochMillis_utc offset false
  have hat := Options.resolveAt_eq href (Moment.epochMillis_utc wall pass) hinstant
    (Moment.epochMillis_utc w second)
  rw [resolve_of_moment hd hnow, hat, hoffset]
  exact ⟨rfl, rfl⟩

/-- The offset that a resolver goes by in universal time, for any count: exact within the years of
the calendar, and the nearest end of the calendar outside of them. Only what cannot be shown has
none. -/
theorem resolve_offset_exact (target : Target)
    (hnow : r.face.moment reading = .ok ⟨w, second, .utc⟩) :
    (target.writable = true →
      ∃ (d : Descriptor) (ds : List Diagnostic) (offset : Wall) (reported : List Diagnostic),
        let exact := w.exactBack d.count d.unit
        let year := yearOfMicros exact
        r.options.descriptor target = .ok (d, ds) ∧
        Options.offsetMoment d ⟨w, second, .utc⟩ = (⟨offset, false, .utc⟩, reported) ∧
        (1 ≤ year ∧ year ≤ 9999 → offset.micros = exact ∧ reported = [] ∧
          (0 < monthsOf d.unit →
            offset.date.monthIndex = w.date.monthIndex - d.count * monthsOf d.unit ∧
            offset.date.day = min w.date.day (daysInMonth offset.date.year offset.date.month) ∧
            offset.timeOfDay = w.timeOfDay)) ∧
        (year < 1 → offset = .first ∧ reported = [.offsetOutOfRange d.key .first]) ∧
        (9999 < year → offset = .last ∧ reported = [.offsetOutOfRange d.key .last]) ∧
        ∀ reference, r.options.referenceMoment d.reference ⟨w, second, .utc⟩ = .ok reference →
          (r.resolve target reading).result = .ok (r.options.range (reference.wall.micros / 1000)
            (offset.micros / 1000) (w.micros / 1000)) ∧
          (r.resolve target reading).events = r.sink.report (ds ++ reported)) ∧
    (target.writable = false →
      (∀ s, target ≠ .key (.string s)) ∧ (∀ d, target ≠ .descriptor d) ∧
        r.resolve target reading = { result := .error (.count .unwritable) }) := by
  refine ⟨fun hwritable => ?_, fun hnot => ⟨?_, ?_, resolve_of_unwritable hnot⟩⟩
  · obtain ⟨d, ds, hd⟩ := r.options.exists_descriptor hwritable
    by_cases hfirst : yearOfMicros (w.exactBack d.count d.unit) < 1
    · have hoffset := Options.offsetMoment_utc_of_before second hfirst
      exact ⟨d, ds, .first, _, hd, hoffset, by omega, fun _ => ⟨rfl, rfl⟩, by omega,
        fun _ href => resolve_of_offset hd hnow hoffset href⟩
    · by_cases hlast : 9999 < yearOfMicros (w.exactBack d.count d.unit)
      · have hoffset := Options.offsetMoment_utc_of_after second hlast
        exact ⟨d, ds, .last, _, hd, hoffset, by omega, by omega, fun _ => ⟨rfl, rfl⟩,
          fun _ href => resolve_of_offset hd hnow hoffset href⟩
      · have hle := (Calendar.one_le_yearOfMicros_iff _).1 (Int.not_lt.1 hfirst)
        have hge := (Calendar.yearOfMicros_le_iff _).1 (Int.not_lt.1 hlast)
        have hoffset := Options.offsetMoment_utc_of_range second
          (v := ⟨w.exactBack d.count d.unit, hle, hge⟩) rfl
        exact ⟨d, ds, _, _, hd, hoffset,
          fun _ => ⟨rfl, rfl, fun hunit => Wall.date_of_exactBack hunit rfl⟩,
          fun h => absurd h hfirst, fun h => absurd h hlast,
          fun _ href => resolve_of_offset hd hnow hoffset href⟩
  · rintro s rfl
    cases hnot
  · rintro d rfl
    cases hnot

/-- A month before the last of March is the leap day, and a count of five thousand digits is cut
off. -/
theorem resolve_offset_exact_leap_day :
    let noon : Wall := ⟨1711886400000000, by decide, by decide⟩
    let r : Resolver := {}
    (r.resolve (.descriptor (Window.descriptor ⟨.month, 1, .now⟩)) ⟨noon, false⟩).result =
        .ok ⟨1709208000000, 1711886400000⟩ ∧
      (r.resolve (.descriptor (Window.descriptor ⟨.year, 10 ^ 5000, .now⟩)) ⟨noon, false⟩).result =
        .ok ⟨-62135596800000, 1711886400000⟩ := by
  intro noon r
  have hnow : r.face.moment ⟨noon, false⟩ = .ok ⟨noon, false, .utc⟩ := Moment.ofUniversal_utc noon
  refine ⟨?_, ?_⟩
  · obtain ⟨d, ds, offset, reported, hd, -, hexact, -, -, hresolve⟩ :=
      (resolve_offset_exact (.descriptor (Window.descriptor ⟨.month, 1, .now⟩)) hnow).1 rfl
    cases hd
    obtain ⟨hoffset, -, -⟩ := hexact (by decide +kernel)
    rw [(hresolve _ rfl).1, hoffset]
    refine congrArg Except.ok ?_
    decide +kernel
  · obtain ⟨d, ds, offset, reported, hd, -, -, hbefore, -, hresolve⟩ :=
      (resolve_offset_exact (.descriptor (Window.descriptor ⟨.year, 10 ^ 5000, .now⟩)) hnow).1 rfl
    cases hd
    obtain ⟨hoffset, -⟩ := hbefore (by decide +kernel)
    rw [(hresolve _ rfl).1, hoffset]
    rfl

end Resolver

end TimeWindow
