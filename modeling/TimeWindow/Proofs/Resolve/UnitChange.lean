import TimeWindow.Proofs.Key.RoundTrip
import TimeWindow.Proofs.Resolve.Offset

/-!
Windows that are counted in a smaller unit. An hour is sixty minutes, a week seven days and a year
twelve months, and so the key of a window may count in either unit: on every clock both keys have
the same range or fail in the same way, and either both offsets are cut off or none is. For months
and years this holds although a step carries them apart, and for large counts although they fail in
different places.
-/

namespace TimeWindow

open Calendar (Moment Wall microsOf monthsOf)

/-- How many of a unit make up a larger one, whatever the clock shows. -/
inductive TimeUnit.MakesUp : TimeUnit → Int → TimeUnit → Prop
  | minutes : MakesUp .min 60 .hour
  | days : MakesUp .day 7 .week
  | months : MakesUp .month 12 .year

namespace TimeUnit.MakesUp

variable {small large : TimeUnit} {size : Int}

theorem size_pos (h : small.MakesUp size large) : 0 < size := by
  cases h <;> decide

theorem isElapsed_eq (h : small.MakesUp size large) : small.isElapsed = large.isElapsed := by
  cases h <;> rfl

theorem monthsOf_eq (h : small.MakesUp size large) : size * monthsOf small = monthsOf large := by
  cases h <;> rfl

theorem microsOf_eq (h : small.MakesUp size large) : size * microsOf small = microsOf large := by
  cases h <;> rfl

theorem exactBack_eq (h : small.MakesUp size large) (w : Wall) (k : Int) :
    w.exactBack (size * k) small = w.exactBack k large := by
  have hmonths : size * k * monthsOf small = k * monthsOf large := by
    rw [← h.monthsOf_eq, Int.mul_comm size k, Int.mul_assoc]
  have hmicros : size * k * microsOf small = k * microsOf large := by
    rw [← h.microsOf_eq, Int.mul_comm size k, Int.mul_assoc]
  rw [Wall.exactBack_eq, Wall.exactBack_eq, hmonths, hmicros]

theorem back_eq_ok_iff (h : small.MakesUp size large) {t t' : Moment} {k : Int} :
    t.back (size * k) small = .ok t' ↔ t.back k large = .ok t' := by
  by_cases hunit : small.isElapsed ∧ t.zone ≠ .floating
  · have hlarge : large.isElapsed ∧ t.zone ≠ .floating := h.isElapsed_eq ▸ hunit
    simp only [Moment.back_universal_eq_ok_iff hunit, Moment.back_universal_eq_ok_iff hlarge,
      h.exactBack_eq]
  · have hlarge : ¬(large.isElapsed ∧ t.zone ≠ .floating) := h.isElapsed_eq ▸ hunit
    simp only [Moment.back_wall_eq_ok_iff hunit, Moment.back_wall_eq_ok_iff hlarge, h.exactBack_eq]

end TimeUnit.MakesUp

namespace Options

variable {small large : TimeUnit} {size : Int}

theorem offsetMoment_unit_change (h : small.MakesUp size large) (k : Int) (reference : Reference)
    (fine coarse : String) (now : Moment) :
    ∃ (t : Moment) (cut : Option Wall),
      offsetMoment ⟨⟨small, size * k, reference⟩, fine⟩ now =
          (t, cut.toList.map (Diagnostic.offsetOutOfRange fine)) ∧
        offsetMoment ⟨⟨large, k, reference⟩, coarse⟩ now =
          (t, cut.toList.map (Diagnostic.offsetOutOfRange coarse)) := by
  by_cases hback : ∃ t, now.back k large = .ok t
  · obtain ⟨t, ht⟩ := hback
    exact ⟨t, none, offsetMoment_of_ok (h.back_eq_ok_iff.2 ht), offsetMoment_of_ok ht⟩
  · have hlarge : ∀ t, now.back k large ≠ .ok t := not_exists.1 hback
    have hsmall : ∀ t, now.back (size * k) small ≠ .ok t := fun t ht =>
      hlarge t (h.back_eq_ok_iff.1 ht)
    rw [offsetMoment_of_forall_ne hsmall, offsetMoment_of_forall_ne hlarge]
    by_cases hpos : 0 < k
    · rw [if_pos (Int.mul_pos h.size_pos hpos), if_pos hpos]
      exact ⟨.earliest, some .first, rfl, rfl⟩
    · have hneg := Int.mul_nonpos_of_nonneg_of_nonpos (Int.le_of_lt h.size_pos) (Int.not_lt.1 hpos)
      rw [if_neg (Int.not_lt.2 hneg), if_neg hpos]
      exact ⟨.latest, some .last, rfl, rfl⟩

theorem resolveAt_unit_change (h : small.MakesUp size large) (k : Int) (reference : Reference)
    (fine coarse : String) (o : Options) (now : Moment) :
    (o.resolveAt ⟨⟨small, size * k, reference⟩, fine⟩ now).1 =
        (o.resolveAt ⟨⟨large, k, reference⟩, coarse⟩ now).1 ∧
      ∃ cut : Option Wall,
        (o.resolveAt ⟨⟨small, size * k, reference⟩, fine⟩ now).2 =
            cut.toList.map (Diagnostic.offsetOutOfRange fine) ∧
          (o.resolveAt ⟨⟨large, k, reference⟩, coarse⟩ now).2 =
            cut.toList.map (Diagnostic.offsetOutOfRange coarse) := by
  obtain ⟨t, cut, hfine, hcoarse⟩ := offsetMoment_unit_change h k reference fine coarse now
  simp only [resolveAt, hfine, hcoarse]
  cases (o.referenceMoment reference now).bind Moment.epochMillis with
  | error e => exact ⟨rfl, none, rfl, rfl⟩
  | ok start => exact ⟨rfl, cut, rfl, rfl⟩

end Options

namespace Resolver

/-- A key in the smaller unit resolves like the key in the larger unit, at every reading of every
clock: to the same range or the same failure, with the same end of the calendar reported, if any. -/
theorem resolve_unit_change {small large : TimeUnit} {size k : Int} {reference : Reference}
    {fine coarse : String} (hunits : small.MakesUp size large)
    (hfine : Key.read fine = .ok ⟨small, size * k, reference⟩)
    (hcoarse : Key.read coarse = .ok ⟨large, k, reference⟩) (r : Resolver) (reading : Reading) :
    let inSmall := r.resolve (.key (.ofText fine)) reading
    let inLarge := r.resolve (.key (.ofText coarse)) reading
    inSmall.result = inLarge.result ∧ inSmall.reads = inLarge.reads ∧
      ∃ cut : Option Wall,
        inSmall.events = r.sink.report (cut.toList.map (Diagnostic.offsetOutOfRange fine)) ∧
        inLarge.events = r.sink.report (cut.toList.map (Diagnostic.offsetOutOfRange coarse)) := by
  intro inSmall inLarge
  simp only [inSmall, inLarge, resolve, Options.descriptor_of_read _ hfine,
    Options.descriptor_of_read _ hcoarse, List.nil_append, true_and]
  cases r.face.moment reading with
  | error e => exact ⟨rfl, none, rfl, rfl⟩
  | ok now =>
    obtain ⟨hresult, cut, hsmall, hlarge⟩ :=
      Options.resolveAt_unit_change hunits k reference fine coarse r.options now
    exact ⟨by rw [hresult], cut, by rw [hsmall], by rw [hlarge]⟩

/-- On the leap day twelve months lead back to the end of February, as a year does. A count of
minutes that leads out of the calendar is cut off where that of hours is. -/
theorem resolve_unit_change_leap_day :
    let r : Resolver := {}
    let noon : Reading := ⟨⟨1709208000000000, by decide, by decide⟩, false⟩
    let far : Window := ⟨.min, 60 * 10 ^ 400, .now⟩
    (r.resolve (.key (.ofText "unit=(Month)&count=(12)&referenceTime=(now)")) noon).result =
        .ok ⟨1677585600000, 1709208000000⟩ ∧
      (r.resolve (.key (.ofText far.key)) noon).result = .ok ⟨-62135596800000, 1709208000000⟩ := by
  intro r noon far
  have hmonths : Key.read "unit=(Month)&count=(12)&referenceTime=(now)" =
      .ok ⟨.month, 12 * 1, .now⟩ := by
    cbv
  have hyear : Key.read "unit=(Year)&count=(1)&referenceTime=(now)" = .ok ⟨.year, 1, .now⟩ := by
    cbv
  have hminutes : Key.read far.key = .ok ⟨.min, 60 * 10 ^ 400, .now⟩ :=
    Key.read_key (Text.isWritable_iff.2 (by decide +kernel))
  have hhours : Key.read (Window.key ⟨.hour, 10 ^ 400, .now⟩) = .ok ⟨.hour, 10 ^ 400, .now⟩ :=
    Key.read_key (Text.isWritable_iff.2 (by decide +kernel))
  have hnow : r.face.moment noon = .ok ⟨noon.wall, false, .utc⟩ := Moment.ofUniversal_utc noon.wall
  constructor
  · rw [(resolve_unit_change .months hmonths hyear r noon).1,
      resolve_eq_ok_iff (r.options.descriptor_of_read hyear) hnow]
    decide +kernel
  · rw [(resolve_unit_change .minutes hminutes hhours r noon).1,
      resolve_eq_ok_iff (r.options.descriptor_of_read hhours) hnow]
    decide +kernel

end Resolver

end TimeWindow
