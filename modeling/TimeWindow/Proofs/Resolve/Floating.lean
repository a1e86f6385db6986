import TimeWindow.Proofs.Calendar.Floating
import TimeWindow.Proofs.Resolve.Failure
import TimeWindow.Proofs.Resolve.WindowLaw

/-!
Windows on a floating clock and on one of universal time that show the same time. Both find the same
wall times for the reference instant and for the offset, and cut an offset off at the same ends of
the calendar. Only their milliseconds differ, where floating times do not keep them, and near the
beginning of the calendar a floating time has none.
-/

namespace TimeWindow

open Calendar (CalendarError Moment Wall dayMicros firstMicros)
open Calendar.Moment (floatingMillis)

namespace Range

/-- Both ends are those of another range but for a millisecond less or two more. -/
def Near (near range : Range) : Prop :=
  (range.start - 1 ≤ near.start ∧ near.start ≤ range.start + 2) ∧
    range.finish - 1 ≤ near.finish ∧ near.finish ≤ range.finish + 2

end Range

namespace Options

variable {o : Options} {d : Descriptor} {reference : Reference} {w start : Wall} {t : Moment}

theorem referenceMoment_floating (o : Options) (reference : Reference) (w : Wall) :
    o.referenceMoment reference ⟨w, false, .floating⟩ =
      (o.referenceMoment reference ⟨w, false, .utc⟩).map fun t => { t with zone := .floating } := by
  cases reference with
  | now | today | thisMonth | thisYear => rfl
  | thisWeek =>
    simp only [referenceMoment, Moment.startOfWeek]
    cases w.startOfDay.move _ <;> rfl

theorem referenceMoment_utc (h : o.referenceMoment reference ⟨w, false, .utc⟩ = .ok t) :
    ∃ start : Wall, t = ⟨start, false, .utc⟩ ∧ (start = w ∨ dayMicros ∣ start.micros) := by
  by_cases hne : reference = .now
  · subst hne
    cases h
    exact ⟨w, rfl, .inl rfl⟩
  · obtain ⟨hwall, hsecond, hzone⟩ := (referenceMoment_eq_ok_iff hne).1 h
    obtain ⟨start, second, zone⟩ := t
    cases hsecond
    cases hzone
    exact ⟨start, rfl, .inr (Dvd.intro_left _ hwall.symm)⟩

def offsetWall (d : Descriptor) (w : Wall) : Wall :=
  .nearest (w.exactBack d.count d.unit)

theorem offsetMoment_floating (d : Descriptor) (w : Wall) :
    offsetMoment d ⟨w, false, .floating⟩ =
      (⟨offsetWall d w, false,
          if (offsetWall d w).micros = w.exactBack d.count d.unit then .floating else .utc⟩,
        (offsetMoment d ⟨w, false, .utc⟩).2) := by
  by_cases hreached : (offsetWall d w).micros = w.exactBack d.count d.unit
  · have hback : Moment.back ⟨w, false, .floating⟩ d.count d.unit =
        .ok ⟨offsetWall d w, false, .floating⟩ :=
      (Moment.back_wall_eq_ok_iff (by simp)).2 ⟨_, hreached, rfl⟩
    rw [offsetMoment_of_ok hback, offsetMoment_utc_of_range false hreached, if_pos hreached]
  · have hnone : ∀ v : Wall, v.micros ≠ w.exactBack d.count d.unit := by
      intro v hv
      apply hreached
      rw [offsetWall, ← hv]
      exact Wall.micros_nearest v.first_le v.le_last
    have hfloating : ∀ t, Moment.back ⟨w, false, .floating⟩ d.count d.unit ≠ .ok t := by
      intro t ht
      obtain ⟨v, hv, -⟩ := (Moment.back_wall_eq_ok_iff (by simp)).1 ht
      exact hnone v hv
    have hutc : ∀ t, Moment.back ⟨w, false, .utc⟩ d.count d.unit ≠ .ok t := by
      intro t ht
      obtain ⟨v, hv, -⟩ := Moment.back_utc_eq_ok_iff.1 ht
      exact hnone v hv
    have hsame : offsetMoment d ⟨w, false, .floating⟩ = offsetMoment d ⟨w, false, .utc⟩ := by
      rw [offsetMoment_of_forall_ne hfloating, offsetMoment_of_forall_ne hutc]
    rw [hsame, if_neg hreached]
    exact Prod.ext (offsetMoment_utc d w false) rfl

def floatingOffset (d : Descriptor) (w : Wall) : Int :=
  if (offsetWall d w).micros = w.exactBack d.count d.unit then floatingMillis (offsetWall d w)
  else (offsetWall d w).micros / 1000

theorem epochMillis_offset_floating_iff {ms : Int} :
    (offsetMoment d ⟨w, false, .floating⟩).1.epochMillis = .ok ms ↔
      ((offsetWall d w).micros = w.exactBack d.count d.unit →
        firstMicros + dayMicros ≤ (offsetWall d w).micros) ∧ ms = floatingOffset d w := by
  rw [offsetMoment_floating, floatingOffset]
  by_cases hreached : (offsetWall d w).micros = w.exactBack d.count d.unit
  · simp only [if_pos hreached]
    rw [Moment.epochMillis_floating_eq_ok_iff]
    exact and_congr_left fun _ => ⟨fun h _ => h, fun h => h hreached⟩
  · simp only [if_neg hreached, Moment.epochMillis_utc, Except.ok.injEq]
    exact ⟨fun h => ⟨fun h' => absurd h' hreached, h.symm⟩, fun h => h.2.symm⟩

theorem range_eq (o : Options) (reference offset now : Int) : o.range reference offset now =
    ⟨min offset reference,
      if o.untilNow then min now (max offset reference) else max offset reference⟩ := by
  rw [range, Range.between_eq]
  cases o.untilNow with
  | false => rfl
  | true =>
    simp only [if_true, Range.cutAt]
    split
    · rw [Int.min_eq_left (a := now) (Int.le_of_lt ‹_›)]
    · rw [Int.min_eq_right (a := now) (Int.not_lt.1 ‹_›)]

theorem range_near {reference reference' offset offset' now now' : Int}
    (href : reference' - 1 ≤ reference ∧ reference ≤ reference' + 2)
    (hoff : offset' - 1 ≤ offset ∧ offset ≤ offset' + 2) (hnow : now' - 1 ≤ now ∧ now ≤ now' + 2) :
    (o.range reference offset now).Near (o.range reference' offset' now') := by
  rw [range_eq, range_eq, Range.Near]
  cases o.untilNow with
  | false =>
    simp only [Bool.false_eq_true, if_false]
    omega
  | true =>
    simp only [if_true]
    omega

/-- The wall times behind a range are not within the first day of the calendar, where a floating
time has no milliseconds. -/
def FloatingPlaced (d : Descriptor) (w start : Wall) : Prop :=
  firstMicros + dayMicros ≤ start.micros ∧
    ((offsetWall d w).micros = w.exactBack d.count d.unit →
      firstMicros + dayMicros ≤ (offsetWall d w).micros)

theorem resolveAt_utc
    (hstart : o.referenceMoment d.reference ⟨w, false, .utc⟩ = .ok ⟨start, false, .utc⟩) :
    o.resolveAt d ⟨w, false, .utc⟩ =
      (.ok (o.range (start.micros / 1000) ((offsetWall d w).micros / 1000) (w.micros / 1000)),
        (offsetMoment d ⟨w, false, .utc⟩).2) := by
  refine resolveAt_eq hstart (Moment.epochMillis_utc _ _) ?_ (Moment.epochMillis_utc _ _)
  rw [offsetMoment_utc]
  exact Moment.epochMillis_utc _ _

theorem resolveAt_floating (hw : firstMicros + dayMicros ≤ w.micros)
    (hstart : o.referenceMoment d.reference ⟨w, false, .utc⟩ = .ok ⟨start, false, .utc⟩)
    (hplaced : FloatingPlaced d w start) :
    o.resolveAt d ⟨w, false, .floating⟩ =
      (.ok (o.range (floatingMillis start) (floatingOffset d w) (floatingMillis w)),
        (offsetMoment d ⟨w, false, .utc⟩).2) := by
  have hfloating : o.referenceMoment d.reference ⟨w, false, .floating⟩ =
      .ok ⟨start, false, .floating⟩ := by
    rw [referenceMoment_floating, hstart]
    rfl
  rw [resolveAt_eq hfloating (Moment.epochMillis_floating_eq_ok_iff.2 ⟨hplaced.1, rfl⟩)
    (epochMillis_offset_floating_iff.2 ⟨hplaced.2, rfl⟩)
    (Moment.epochMillis_floating_eq_ok_iff.2 ⟨hw, rfl⟩), offsetMoment_floating]

theorem exists_resolveAt_floating_iff (hw : firstMicros + dayMicros ≤ w.micros)
    (hstart : o.referenceMoment d.reference ⟨w, false, .utc⟩ = .ok ⟨start, false, .utc⟩) :
    (∃ range, (o.resolveAt d ⟨w, false, .floating⟩).1 = .ok range) ↔ FloatingPlaced d w start := by
  constructor
  · rintro ⟨range, hrange⟩
    obtain ⟨t, reference, offset, now, ht, href, hoff, -, -⟩ := exists_instants hrange
    rw [referenceMoment_floating, hstart] at ht
    cases ht
    exact ⟨(Moment.epochMillis_floating_eq_ok_iff.1 href).1,
      (epochMillis_offset_floating_iff.1 hoff).1⟩
  · intro hplaced
    rw [resolveAt_floating hw hstart hplaced]
    exact ⟨_, rfl⟩

theorem resolveAt_floating_of_error {e : CalendarError}
    (h : (o.resolveAt d ⟨w, false, .utc⟩).1 = .error e) :
    (o.resolveAt d ⟨w, false, .floating⟩).1 = .error e := by
  have hbefore : o.BeforeCalendar d.reference ⟨w, false, .utc⟩ := by
    by_contra hnot
    obtain ⟨range, hrange⟩ := exists_resolveAt_of_fixed hnot rfl (by decide)
    cases hrange.symm.trans h
  have hbefore' : o.BeforeCalendar d.reference ⟨w, false, .floating⟩ :=
    ⟨hbefore.week_start, hbefore.this_week, hbefore.year_eq, hbefore.month_eq, hbefore.day_le⟩
  cases (resolveAt_of_beforeCalendar hbefore).symm.trans h
  exact resolveAt_of_beforeCalendar hbefore'

theorem floatingOffset_bounds (d : Descriptor) (w : Wall) :
    (offsetWall d w).micros / 1000 - 1 ≤ floatingOffset d w ∧
      floatingOffset d w ≤ (offsetWall d w).micros / 1000 + 2 := by
  rw [floatingOffset]
  split
  · exact (Moment.nearMillis_floatingMillis _).within
  · omega

theorem floatingMillis_start (hstart : start = w ∨ dayMicros ∣ start.micros)
    (hnow : floatingMillis w = w.micros / 1000) : floatingMillis start = start.micros / 1000 := by
  rcases hstart with rfl | hmidnight
  · exact hnow
  · exact (Moment.nearMillis_floatingMillis start).eighths (Int.dvd_trans (by decide) hmidnight)

theorem dvd_exactBack (h : 125000 ∣ w.micros) (count : Int) (unit : TimeUnit) :
    125000 ∣ w.exactBack count unit := by
  cases unit <;>
    simp only [Wall.exactBack, Wall.monthsBack, Wall.timeOfDay, Calendar.secondMicros, dayMicros] <;>
      omega

theorem floatingMillis_offsetWall (h : 125000 ∣ w.micros)
    (hreached : (offsetWall d w).micros = w.exactBack d.count d.unit) :
    floatingMillis (offsetWall d w) = (offsetWall d w).micros / 1000 :=
  (Moment.nearMillis_floatingMillis _).eighths (hreached ▸ dvd_exactBack h d.count d.unit)

theorem floatingOffset_eq (h : (offsetWall d w).micros = w.exactBack d.count d.unit →
    floatingMillis (offsetWall d w) = (offsetWall d w).micros / 1000) :
    floatingOffset d w = (offsetWall d w).micros / 1000 := by
  rw [floatingOffset]
  split
  · exact h ‹_›
  · rfl

theorem range_floating_near (o : Options) (d : Descriptor) (w start : Wall) :
    (o.range (floatingMillis start) (floatingOffset d w) (floatingMillis w)).Near
      (o.range (start.micros / 1000) ((offsetWall d w).micros / 1000) (w.micros / 1000)) :=
  range_near (Moment.nearMillis_floatingMillis start).within (floatingOffset_bounds d w)
    (Moment.nearMillis_floatingMillis w).within

theorem range_floating_eq (o : Options) (hstart : start = w ∨ dayMicros ∣ start.micros)
    (hnow : floatingMillis w = w.micros / 1000)
    (hoffset : (offsetWall d w).micros = w.exactBack d.count d.unit →
      floatingMillis (offsetWall d w) = (offsetWall d w).micros / 1000) :
    o.range (floatingMillis start) (floatingOffset d w) (floatingMillis w) =
      o.range (start.micros / 1000) ((offsetWall d w).micros / 1000) (w.micros / 1000) := by
  rw [floatingMillis_start hstart hnow, floatingOffset_eq hoffset, hnow]

end Options

namespace Resolver

def withFace (r : Resolver) (face : ClockFace) : Resolver :=
  { r with face }

/-- A floating time and the same time of universal time, from the second day of the calendar on, and
what windows resolve to on two clocks that show it. -/
theorem resolve_on_floating_clock {w : Wall} (hw : firstMicros + dayMicros ≤ w.micros) :
    (∃ ms, Moment.epochMillis ⟨w, false, .floating⟩ = .ok ms ∧
      Moment.epochMillis ⟨w, false, .utc⟩ = .ok (w.micros / 1000) ∧ Moment.NearMillis w ms) ∧
    ∀ (r : Resolver) (target : Target) (face face' : ClockFace) (reading reading' : Reading),
      face.moment reading = .ok ⟨w, false, .floating⟩ →
      face'.moment reading' = .ok ⟨w, false, .utc⟩ →
      let floating := (r.withFace face).resolve target reading
      let universal := (r.withFace face').resolve target reading'
      (∀ f, universal.result = .error f → floating.result = .error f) ∧
      ∀ range, universal.result = .ok range →
        ∃ (d : Descriptor) (ds : List Diagnostic) (start : Wall),
        r.options.descriptor target = .ok (d, ds) ∧
        r.options.referenceMoment d.reference ⟨w, false, .utc⟩ = .ok ⟨start, false, .utc⟩ ∧
        ((∃ near, floating.result = .ok near) ↔ Options.FloatingPlaced d w start) ∧
        ∀ near, floating.result = .ok near →
          near.Near range ∧ floating.events = universal.events ∧
          (floatingMillis w = w.micros / 1000 →
            ((Options.offsetWall d w).micros = w.exactBack d.count d.unit →
              floatingMillis (Options.offsetWall d w) = (Options.offsetWall d w).micros / 1000) →
            near = range) ∧
          (125000 ∣ w.micros → near = range) := by
  refine ⟨⟨_, Moment.epochMillis_floating_eq_ok_iff.2 ⟨hw, rfl⟩, Moment.epochMillis_utc w false,
    Moment.nearMillis_floatingMillis w⟩, ?_⟩
  intro r target face face' reading reading' hface hface' floating universal
  have hfloating : (r.withFace face).face.moment reading = .ok ⟨w, false, .floating⟩ := hface
  have huniversal : (r.withFace face').face.moment reading' = .ok ⟨w, false, .utc⟩ := hface'
  constructor
  · intro f hf
    cases htarget : r.options.descriptor target with
    | error e =>
      have htarget' : ∀ face, (r.withFace face).options.descriptor target = .error e :=
        fun _ => htarget
      simp only [floating, universal, resolve, htarget'] at hf ⊢
      exact hf
    | ok described =>
      obtain ⟨e, he, rfl⟩ := (resolve_eq_error_iff (r := r.withFace face') htarget huniversal).1 hf
      exact (resolve_eq_error_iff (r := r.withFace face) htarget hfloating).2
        ⟨e, Options.resolveAt_floating_of_error he, rfl⟩
  · intro range hrange
    obtain ⟨d, ds, hd⟩ : ∃ d ds, r.options.descriptor target = .ok (d, ds) :=
      exists_descriptor_of_resolve (r := r.withFace face') hrange
    have hat := (resolve_eq_ok_iff (r := r.withFace face') hd huniversal).1 hrange
    have hiff (near : Range) : floating.result = .ok near ↔
        (r.options.resolveAt d ⟨w, false, .floating⟩).1 = .ok near :=
      resolve_eq_ok_iff (r := r.withFace face) hd hfloating
    obtain ⟨t, -, -, -, ht, -, -, -, -⟩ := Options.exists_instants hat
    obtain ⟨start, rfl, hmidnight⟩ := Options.referenceMoment_utc ht
    have hplaced := Options.exists_resolveAt_floating_iff (d := d) hw ht
    refine ⟨d, ds, start, hd, ht, (exists_congr hiff).trans hplaced, ?_⟩
    intro near hnear
    have hnearAt := (hiff near).1 hnear
    have hfloatingAt : r.options.resolveAt d ⟨w, false, .floating⟩ = _ :=
      Options.resolveAt_floating hw ht (hplaced.1 ⟨near, hnearAt⟩)
    have huniversalAt : r.options.resolveAt d ⟨w, false, .utc⟩ = _ := Options.resolveAt_utc ht
    cases hnearAt.symm.trans (congrArg Prod.fst hfloatingAt)
    cases hat.symm.trans (congrArg Prod.fst huniversalAt)
    refine ⟨Options.range_floating_near _ _ _ _, ?_, Options.range_floating_eq _ hmidnight,
      fun heighths => ?_⟩
    · change ((r.withFace face).resolve target reading).events =
        ((r.withFace face').resolve target reading').events
      rw [resolve_of_moment (r := r.withFace face) hd hfloating,
        resolve_of_moment (r := r.withFace face') hd huniversal]
      change r.sink.report (_ ++ (r.options.resolveAt d _).2) =
        r.sink.report (_ ++ (r.options.resolveAt d _).2)
      rw [hfloatingAt, huniversalAt]
    · exact Options.range_floating_eq _ hmidnight
        ((Moment.nearMillis_floatingMillis w).eighths heighths)
        (Options.floatingMillis_offsetWall heighths)

/-- An eighth of a second before 1970 both clocks find the same month. -/
theorem resolve_on_floating_clock_eighth :
    let w : Wall := ⟨-125000, by decide, by decide⟩
    let target : Target := .descriptor (Window.descriptor ⟨.month, 1, .now⟩)
    let range : Range := ⟨-2678400125, -125⟩
    Moment.epochMillis ⟨w, false, .floating⟩ = .ok (-125) ∧
      (Resolver.resolve { face := .wall .utc } target ⟨w, false⟩).result = .ok range ∧
      (Resolver.resolve { face := .wall .floating } target ⟨w, false⟩).result = .ok range := by
  intro w target range
  have hw : firstMicros + dayMicros ≤ w.micros := by decide
  have huniversal : (Resolver.resolve { face := .wall .utc } target ⟨w, false⟩).result = .ok range :=
    (resolve_eq_ok_iff rfl rfl).2 (by decide +kernel)
  obtain ⟨⟨ms, hms, -, hnear⟩, hresolve⟩ := resolve_on_floating_clock hw
  obtain ⟨d, ds, start, hd, hstart, hplaced, hranges⟩ :=
    (hresolve {} target (.wall .floating) (.wall .utc) ⟨w, false⟩ ⟨w, false⟩ rfl rfl).2 range huniversal
  cases hd
  cases hstart
  obtain ⟨near, hfloating⟩ := hplaced.2 ⟨hw, fun _ => by decide +kernel⟩
  obtain ⟨-, -, -, heighths⟩ := hranges near hfloating
  refine ⟨hms.trans (congrArg Except.ok (hnear.eighths (by decide))), huniversal, ?_⟩
  rw [← heighths (by decide)]
  exact hfloating

/-- Half a millisecond before 1970 is dropped on a floating clock, and of the first second and a
thousandth the thousandth is lost. -/
theorem floating_clock_differs :
    let early : Wall := ⟨-500, by decide, by decide⟩
    let late : Wall := ⟨1001000, by decide, by decide⟩
    let target : Target := .descriptor (Window.descriptor ⟨.day, 1, .now⟩)
    (Moment.epochMillis ⟨early, false, .floating⟩ = .ok 0 ∧
      Moment.epochMillis ⟨early, false, .utc⟩ = .ok (-1)) ∧
    (Moment.epochMillis ⟨late, false, .floating⟩ = .ok 1000 ∧
      Moment.epochMillis ⟨late, false, .utc⟩ = .ok 1001) ∧
    (Resolver.resolve { face := .wall .floating } target ⟨early, false⟩).result =
      .ok ⟨-86400000, 0⟩ ∧
    (Resolver.resolve { face := .wall .utc } target ⟨early, false⟩).result =
      .ok ⟨-86400001, -1⟩ := by
  intro early late target
  exact ⟨by decide +kernel, by decide +kernel, (resolve_eq_ok_iff rfl rfl).2 (by decide +kernel),
    (resolve_eq_ok_iff rfl rfl).2 (by decide +kernel)⟩

end Resolver

end TimeWindow
