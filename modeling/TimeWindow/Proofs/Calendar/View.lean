import TimeWindow.Proofs.Calendar.Midnight

/-!
Instants on the wall of a zone. An instant of universal time is first taken for a wall time and
looked up as one, and its standard wall time is looked up after it; where both can be told and the
wall has room for the result, the wall shows the instant as the rules of its zone say. What it shows
is told by its two passes, so no two instants look the same.
-/

namespace TimeWindow.Calendar

def InCalendar (n : Int) : Prop :=
  firstMicros ≤ n ∧ n ≤ lastMicros

theorem exists_wall_iff {n : Int} : (∃ v : Wall, v.micros = n) ↔ InCalendar n := by
  constructor
  · rintro ⟨v, rfl⟩
    exact ⟨v.first_le, v.le_last⟩
  · rintro ⟨hle, hge⟩
    exact ⟨⟨n, hle, hge⟩, rfl⟩

namespace Seasons

variable {z : Seasons} {u v w : Wall} {second b : Bool}

/-- A season whose distance to universal time, or to standard time, is of no use. -/
def Apart (z : Seasons) (daylight : Bool) : Prop :=
  86400 ≤ (z.distance daylight).natAbs ∨ 86400 ≤ z.distance daylight - z.standard

def asWall (z : Seasons) (n : Int) : Bool :=
  z.rules.isDaylight (n / secondMicros - z.standard) ||
    z.rules.isDaylight (n / secondMicros - z.daylight)

/-- Why a wall that goes by seasons does not show an instant, in microseconds, of which it could
show the time. -/
inductive Bars (z : Seasons) (n : Int) : Prop
  | early : z.shownAt n < firstMicros + z.saving → z.Bars n
  | earlyAsWall : z.rules.isDaylight (n / secondMicros - z.standard) = false →
      n < firstMicros + z.saving → z.Bars n
  | apartAsWall : z.Apart (z.asWall n) → z.Bars n
  | ahead : z.rules.isDaylight (n / secondMicros) = true → 86400 ≤ z.daylight - z.standard → z.Bars n

theorem exists_told_iff : ((∃ o, z.offset w second = .ok o) ∧ ∃ a, z.ahead w second = .ok a) ↔
    ∃ b, z.showsDaylight w second = .ok b ∧ ¬z.Apart b := by
  simp only [offset_eq_ok_iff, ahead_eq_ok_iff, Apart, not_or, Nat.not_le, Int.not_le]
  constructor
  · rintro ⟨⟨-, b, hb, rfl, hlt⟩, -, b', hb', rfl, hlt'⟩
    cases hb.symm.trans hb'
    exact ⟨b, hb, hlt, by omega⟩
  · rintro ⟨b, hb, hlt, hlt'⟩
    have hbounds := z.distance_bounds b
    exact ⟨⟨_, b, hb, rfl, hlt⟩, _, b, hb, rfl, by omega⟩

theorem showsDaylight_eq_ok_iff_of_dvd (hsmall : z.standard.natAbs < 10 ^ 12) (hw : 1000 ∣ w.micros) :
    z.showsDaylight w second = .ok b ↔
      b = (z.rules.isDaylight (z.standardSecond w) ||
        z.rules.isDaylight (z.daylightSecond w) && !second) ∧
      ¬(z.rules.isDaylight (z.standardSecond w) = false ∧ w.micros < firstMicros + z.saving) := by
  have herror : ∀ e, z.showsDaylight w second = .error e ↔
      (z.rules.isDaylight (z.standardSecond w) = false ∧ w.micros < firstMicros + z.saving) ∧
        e = .beyondRange := by
    intro e
    rw [showsDaylight_eq_error_iff, readsDaylight_eq hsmall hw, and_assoc]
  cases hshown : z.showsDaylight w second with
  | error e => simp [((herror e).1 hshown).1]
  | ok b' =>
    have hnot : ¬(z.rules.isDaylight (z.standardSecond w) = false ∧
        w.micros < firstMicros + z.saving) := by
      intro h
      cases hshown.symm.trans ((herror _).2 ⟨h, rfl⟩)
    rw [← eq_of_showsDaylight hsmall hw hshown, Except.ok.injEq]
    exact ⟨fun h => ⟨h.symm, hnot⟩, fun h => h.1.symm⟩

theorem exists_isRepeated (hb : z.showsDaylight v true = .ok b)
    (hw : w.micros = v.micros + (z.distance b - z.standard) * secondMicros) :
    ∃ twice, z.isRepeated w = .ok twice := by
  cases hreads : z.readsDaylight w with
  | true => exact ⟨false, if_pos hreads⟩
  | false =>
    cases b with
    | true =>
      refine ⟨_, (isRepeated_eq_ok_iff hreads).2 ⟨v, ?_, rfl⟩⟩
      rw [hw]
      exact (Int.add_sub_cancel _ _).symm
    | false =>
      have hsame : w = v := by
        apply Wall.ext_micros
        rw [hw, distance_false, Int.sub_self, Int.zero_mul, Int.add_zero]
      rw [hsame] at hreads ⊢
      obtain ⟨v', hv', -⟩ := (showsDaylight_eq_ok_iff hreads).1 hb
      exact ⟨_, (isRepeated_eq_ok_iff hreads).2 ⟨v', hv', rfl⟩⟩

theorem exists_ofUniversal_iff_looks : (∃ shown, z.ofUniversal u = .ok shown) ↔
    (∃ b, z.showsDaylight u false = .ok b ∧ ¬z.Apart b) ∧
      ∃ v : Wall, v.micros = u.micros + z.standard * secondMicros ∧
        ∃ b, z.showsDaylight v true = .ok b ∧ z.distance b - z.standard < 86400 ∧
          InCalendar (v.micros + (z.distance b - z.standard) * secondMicros) := by
  rw [← exists_told_iff]
  constructor
  · rintro ⟨⟨w, pass⟩, h⟩
    obtain ⟨o, ho, h⟩ := Except.bind_eq_ok_iff.1 h
    obtain ⟨a, ha, h⟩ := Except.bind_eq_ok_iff.1 h
    obtain ⟨v, hv, h⟩ := Except.bind_eq_ok_iff.1 h
    obtain ⟨a', ha', h⟩ := Except.bind_eq_ok_iff.1 h
    obtain ⟨w', hw, -⟩ := Except.bind_eq_ok_iff.1 h
    obtain ⟨b, hb, rfl, hlt⟩ := ahead_eq_ok_iff.1 ha'
    refine ⟨⟨⟨o, ho⟩, a, ha⟩, v, Wall.move_eq_ok_iff.1 hv, b, hb, by omega, ?_⟩
    exact exists_wall_iff.1 ⟨w', Wall.move_eq_ok_iff.1 hw⟩
  · rintro ⟨⟨⟨o, ho⟩, a, ha⟩, v, hv, b, hb, hlt, hin⟩
    obtain ⟨w, hw⟩ := exists_wall_iff.2 hin
    obtain ⟨twice, htwice⟩ := exists_isRepeated hb hw
    have hbounds := z.distance_bounds b
    have ha' := ahead_eq_ok_iff.2 ⟨b, hb, rfl, by omega⟩
    refine ⟨_, Except.bind_eq_ok_iff.2 ⟨o, ho, Except.bind_eq_ok_iff.2 ⟨a, ha,
      Except.bind_eq_ok_iff.2 ⟨v, Wall.move_eq_ok_iff.2 hv, Except.bind_eq_ok_iff.2 ⟨_, ha',
        Except.bind_eq_ok_iff.2 ⟨w, Wall.move_eq_ok_iff.2 hw,
          Except.bind_eq_ok_iff.2 ⟨twice, htwice, rfl⟩⟩⟩⟩⟩⟩⟩

theorem exists_look_iff (hsmall : z.standard.natAbs < 10 ^ 12) (hu : 1000 ∣ u.micros) :
    (∃ b, z.showsDaylight u false = .ok b ∧ ¬z.Apart b) ↔
      ¬(z.rules.isDaylight (u.micros / secondMicros - z.standard) = false ∧
        u.micros < firstMicros + z.saving) ∧ ¬z.Apart (z.asWall u.micros) := by
  simp only [showsDaylight_eq_ok_iff_of_dvd hsmall hu, Bool.not_false, Bool.and_true]
  constructor
  · rintro ⟨b, ⟨rfl, hnot⟩, hnear⟩
    exact ⟨hnot, hnear⟩
  · rintro ⟨hnot, hnear⟩
    exact ⟨_, ⟨rfl, hnot⟩, hnear⟩

theorem showsDaylight_standard_eq_ok_iff (hsmall : z.standard.natAbs < 10 ^ 12)
    (hu : 1000 ∣ u.micros) (hv : v.micros = u.micros + z.standard * secondMicros) :
    z.showsDaylight v true = .ok b ↔ b = z.rules.isDaylight (u.micros / secondMicros) ∧
      ¬(z.rules.isDaylight (u.micros / secondMicros) = false ∧
        v.micros < firstMicros + z.saving) := by
  rw [showsDaylight_eq_ok_iff_of_dvd hsmall (dvd_of_standard hu hv), standardSecond_of_standard hv,
    Bool.not_true, Bool.and_false, Bool.or_false]

theorem ahead_of_standard (hv : v.micros = u.micros + z.standard * secondMicros) :
    v.micros + (z.distance (z.rules.isDaylight (u.micros / secondMicros)) - z.standard) *
      secondMicros = z.shownAt u.micros := by
  rw [hv, shownAt]
  simp only [secondMicros]
  omega

/-- Where daylight time is less than a day ahead, an instant is found from its standard wall time
exactly if the wall shows it in the calendar and not before its first saving is over. -/
theorem exists_second_look_iff (hsmall : z.standard.natAbs < 10 ^ 12) (hu : 1000 ∣ u.micros) :
    (∃ v : Wall, v.micros = u.micros + z.standard * secondMicros ∧
      ∃ b, z.showsDaylight v true = .ok b ∧ z.distance b - z.standard < 86400 ∧
        InCalendar (v.micros + (z.distance b - z.standard) * secondMicros)) ↔
    InCalendar (z.shownAt u.micros) ∧ firstMicros + z.saving ≤ z.shownAt u.micros ∧
      (z.rules.isDaylight (u.micros / secondMicros) = true → z.daylight - z.standard < 86400) := by
  constructor
  · rintro ⟨v, hv, b, hb, hlt, hin⟩
    obtain ⟨rfl, hnot⟩ := (showsDaylight_standard_eq_ok_iff hsmall hu hv).1 hb
    rw [ahead_of_standard hv] at hin
    refine ⟨hin, ?_, fun hday => ?_⟩
    · -- Daylight time is one saving after a wall time, and standard time leaves room for one.
      have hfirst := v.first_le
      rw [← ahead_of_standard hv]
      cases hday : z.rules.isDaylight (u.micros / secondMicros) with
      | true =>
        rw [distance_true, saving]
        omega
      | false =>
        rw [distance_false, Int.sub_self, Int.zero_mul, Int.add_zero]
        exact Int.not_lt.1 fun hearly => hnot ⟨hday, hearly⟩
    · rwa [hday, distance_true] at hlt
  · rintro ⟨hin, hroom, hlt⟩
    have hahead := z.standard_lt_daylight
    have hbounds := z.distance_bounds (z.rules.isDaylight (u.micros / secondMicros))
    have hstandard : InCalendar (u.micros + z.standard * secondMicros) := by
      simp only [InCalendar, shownAt, saving, secondMicros] at *
      omega
    obtain ⟨v, hv⟩ := exists_wall_iff.2 hstandard
    have hshown := ahead_of_standard hv
    refine ⟨v, hv, _, (showsDaylight_standard_eq_ok_iff hsmall hu hv).2 ⟨rfl, ?_⟩, ?_, hshown ▸ hin⟩
    · rintro ⟨hday, hearly⟩
      rw [← hshown, hday, distance_false, Int.sub_self, Int.zero_mul, Int.add_zero] at hroom
      omega
    · cases hday : z.rules.isDaylight (u.micros / secondMicros) with
      | true => exact hlt hday
      | false =>
        rw [distance_false]
        omega

theorem apart_of_far (h : 172800 ≤ z.standard.natAbs) (b : Bool) : z.Apart b := by
  have hbounds := z.distance_bounds b
  rw [Apart]
  omega

/-- A wall that goes by seasons shows every instant of which it could show the time but for the ones
that are barred. -/
theorem exists_ofUniversal_iff (hu : 1000 ∣ u.micros) :
    (∃ shown, z.ofUniversal u = .ok shown) ↔
      InCalendar (z.shownAt u.micros) ∧ ¬z.Bars u.micros := by
  rw [exists_ofUniversal_iff_looks]
  -- Far from universal time the seconds that the rules are asked about are not exact, but then no
  -- distance is of use, whichever season they tell.
  rcases Nat.lt_or_ge z.standard.natAbs 172800 with hnear | hfar
  · have hsmall : z.standard.natAbs < 10 ^ 12 := by omega
    rw [exists_look_iff hsmall hu, exists_second_look_iff hsmall hu]
    constructor
    · rintro ⟨⟨hearly, hnear⟩, hin, hroom, hahead⟩
      refine ⟨hin, ?_⟩
      rintro (h | ⟨h, h'⟩ | h | ⟨h, h'⟩)
      · omega
      · exact hearly ⟨h, h'⟩
      · exact hnear h
      · have := hahead h
        omega
    · rintro ⟨hin, hnot⟩
      refine ⟨⟨fun h => hnot (.earlyAsWall h.1 h.2), fun h => hnot (.apartAsWall h)⟩, hin, ?_, ?_⟩
      · exact Int.not_lt.1 fun h => hnot (.early h)
      · exact fun h => Int.not_le.1 fun h' => hnot (.ahead h h')
  · constructor
    · rintro ⟨⟨b, -, hnot⟩, -⟩
      exact absurd (apart_of_far hfar b) hnot
    · rintro ⟨-, hnot⟩
      exact absurd (.apartAsWall (apart_of_far hfar _)) hnot

structure Near (z : Seasons) : Prop where
  standard_lt : z.standard.natAbs < 86400
  daylight_lt : z.daylight.natAbs < 86400
  ahead_lt : z.daylight - z.standard < 86400

theorem Near.natAbs_distance_lt (h : z.Near) (b : Bool) : (z.distance b).natAbs < 86400 := by
  cases b with
  | true => exact h.daylight_lt
  | false => exact h.standard_lt

variable {e : CalendarError}

theorem not_near_of_offset (h : z.offset w second = .error e) :
    e = .beyondRange ∨ e = .dayApart ∧ ¬z.Near := by
  rcases offset_eq_error_iff.1 h with h | ⟨b, -, hfar, rfl⟩
  · exact .inl (showsDaylight_eq_error_iff.1 h).2.2
  · exact .inr ⟨rfl, fun hnear => Nat.not_lt.2 hfar (hnear.natAbs_distance_lt b)⟩

theorem not_near_of_ahead (h : z.ahead w second = .error e) :
    e = .beyondRange ∨ e = .dayApart ∧ ¬z.Near := by
  rcases Except.bind_eq_error_iff.1 h with h | ⟨b, -, h⟩
  · exact .inl (showsDaylight_eq_error_iff.1 h).2.2
  · obtain ⟨hfar, rfl⟩ := withinDay_eq_error_iff.1 h
    refine .inr ⟨rfl, fun hnear => ?_⟩
    have hahead := z.standard_lt_daylight
    have hlt := hnear.ahead_lt
    split at hfar
    · omega
    · omega

theorem eq_beyondRange_of_isRepeated (h : z.isRepeated w = .error e) : e = .beyondRange := by
  cases hreads : z.readsDaylight w with
  | true =>
    rw [isRepeated, if_pos hreads] at h
    cases h
  | false => exact ((isRepeated_eq_error_iff hreads).1 h).1

theorem not_near_of_ofUniversal (h : z.ofUniversal u = .error e) :
    e = .beyondRange ∨ e = .dayApart ∧ ¬z.Near := by
  rcases Except.bind_eq_error_iff.1 h with h | ⟨-, -, h⟩
  · exact not_near_of_offset h
  rcases Except.bind_eq_error_iff.1 h with h | ⟨-, -, h⟩
  · exact not_near_of_ahead h
  rcases Except.bind_eq_error_iff.1 h with h | ⟨v, -, h⟩
  · exact .inl (Wall.move_eq_error_iff.1 h).1
  rcases Except.bind_eq_error_iff.1 h with h | ⟨a, -, h⟩
  · exact not_near_of_ahead h
  rcases Except.bind_eq_error_iff.1 h with h | ⟨w, -, h⟩
  · exact .inl (Wall.move_eq_error_iff.1 h).1
  rcases Except.bind_eq_error_iff.1 h with h | ⟨twice, -, h⟩
  · exact .inl (eq_beyondRange_of_isRepeated h)
  · cases h

theorem ofUniversal_inj (h : z.ofUniversal u = .ok (w, second))
    (h' : z.ofUniversal v = .ok (w, second)) : u = v := by
  obtain ⟨b, hb, hu, -⟩ := shows_of_ofUniversal h
  obtain ⟨b', hb', hv, -⟩ := shows_of_ofUniversal h'
  cases hb.symm.trans hb'
  exact Wall.ext_micros (hu.trans hv.symm)

end Seasons

namespace Zone

variable {zone : Zone} {u v w : Wall} {second : Bool} {e : CalendarError}

def Bars : Zone → Int → Prop
  | .floating, _ => False
  | .fixed distance, _ => 86400 ≤ distance.natAbs
  | .seasonal z, n => z.Bars n

def Near : Zone → Prop
  | .floating => True
  | .fixed distance => distance.natAbs < 86400
  | .seasonal z => z.Near

theorem Near.shownAt_sub_lt (h : zone.Near) (n : Int) :
    (zone.shownAt n - n).natAbs < dayMicros.natAbs := by
  cases zone with
  | floating =>
    rw [shownAt, Int.sub_self]
    decide
  | fixed distance =>
    simp only [Near, shownAt, dayMicros, secondMicros] at *
    omega
  | seasonal z =>
    have hlt := Seasons.Near.natAbs_distance_lt h (z.rules.isDaylight (n / secondMicros))
    rw [shownAt, Seasons.shownAt]
    simp only [dayMicros, secondMicros] at *
    omega

theorem exists_ofUniversal_iff (hu : 1000 ∣ u.micros) :
    (∃ shown, zone.ofUniversal u = .ok shown) ↔
      InCalendar (zone.shownAt u.micros) ∧ ¬zone.Bars u.micros := by
  cases zone with
  | floating => exact iff_of_true ⟨_, rfl⟩ ⟨exists_wall_iff.1 ⟨u, rfl⟩, id⟩
  | fixed distance =>
    simp only [shownAt, Bars, Nat.not_le]
    constructor
    · rintro ⟨⟨w, pass⟩, h⟩
      obtain ⟨d, hd, hw⟩ := ofUniversal_fixed_eq_ok h
      obtain ⟨rfl, hlt⟩ := withinDay_eq_ok_iff.1 hd
      exact ⟨exists_wall_iff.1 ⟨w, hw⟩, hlt⟩
    · rintro ⟨hin, hlt⟩
      obtain ⟨w, hw⟩ := exists_wall_iff.2 hin
      exact ⟨_, Except.bind_eq_ok_iff.2 ⟨distance, withinDay_eq_ok hlt,
        Except.bind_eq_ok_iff.2 ⟨w, Wall.move_eq_ok_iff.2 hw, rfl⟩⟩⟩
  | seasonal z => exact Seasons.exists_ofUniversal_iff hu

theorem not_near_of_ofUniversal (h : zone.ofUniversal u = .error e) :
    e = .beyondRange ∨ e = .dayApart ∧ ¬zone.Near := by
  cases zone with
  | floating => cases h
  | fixed distance =>
    rcases Except.bind_eq_error_iff.1 h with h | ⟨d, -, h⟩
    · obtain ⟨hfar, rfl⟩ := withinDay_eq_error_iff.1 h
      exact .inr ⟨rfl, Nat.not_lt.2 hfar⟩
    · rcases Except.bind_eq_error_iff.1 h with h | ⟨w, -, h⟩
      · exact .inl (Wall.move_eq_error_iff.1 h).1
      · cases h
  | seasonal z => exact Seasons.not_near_of_ofUniversal h

theorem ofUniversal_inj (h : zone.ofUniversal u = .ok (w, second))
    (h' : zone.ofUniversal v = .ok (w, second)) : u = v := by
  cases zone with
  | floating =>
    cases h
    cases h'
    rfl
  | fixed distance =>
    obtain ⟨d, hd, hw⟩ := ofUniversal_fixed_eq_ok h
    obtain ⟨d', hd', hw'⟩ := ofUniversal_fixed_eq_ok h'
    cases hd.symm.trans hd'
    apply Wall.ext_micros
    omega
  | seasonal z => exact Seasons.ofUniversal_inj h h'

theorem exists_distance (hz : zone ≠ .floating) (h : zone.ofUniversal u = .ok (w, second)) :
    ∃ o, w.micros = u.micros + o * secondMicros ∧
      zone.offset w second = (withinDay o).map some := by
  cases zone with
  | floating => exact absurd rfl hz
  | fixed distance =>
    obtain ⟨d, hd, hw⟩ := ofUniversal_fixed_eq_ok h
    obtain ⟨rfl, -⟩ := withinDay_eq_ok_iff.1 hd
    exact ⟨distance, hw, rfl⟩
  | seasonal z =>
    obtain ⟨b, hb, hu, -⟩ := Seasons.shows_of_ofUniversal h
    refine ⟨z.distance b, by omega, ?_⟩
    change (z.offset w second).map some = _
    rw [Seasons.offset, hb]
    rfl

end Zone

namespace Moment

variable {zone : Zone} {ms ms' : Int} {t t' : Moment} {e : CalendarError}

theorem ofEpochMillis_eq_ok_iff : ofEpochMillis zone ms = .ok t ↔
    t.zone = zone ∧ ∃ u : Wall, u.micros = ms * 1000 ∧ t.Shows u := by
  rw [ofEpochMillis]
  cases hms : Wall.ofMicros? (ms * 1000) with
  | none =>
    have hout := Wall.ofMicros?_eq_none_iff.1 hms
    refine iff_of_false (by simp) ?_
    rintro ⟨-, u, hu, -⟩
    exact hout (exists_wall_iff.1 ⟨u, hu⟩)
  | some u =>
    have hu := Wall.ofMicros?_eq_some_iff.1 hms
    constructor
    · intro h
      obtain ⟨hzone, hshows⟩ := shows_of_ofUniversal h
      exact ⟨hzone, u, hu, hshows⟩
    · rintro ⟨rfl, u', hu', hshows⟩
      rwa [Wall.ext_micros (hu.trans hu'.symm)]

/-- An instant in milliseconds has a view in a zone unless it is outside the calendar there or in
universal time, or the zone bars it. -/
theorem exists_ofEpochMillis_iff : (∃ t, ofEpochMillis zone ms = .ok t) ↔
    InCalendar (ms * 1000) ∧ InCalendar (zone.shownAt (ms * 1000)) ∧ ¬zone.Bars (ms * 1000) := by
  simp only [ofEpochMillis_eq_ok_iff]
  constructor
  · rintro ⟨t, rfl, u, hu, hshows⟩
    rw [← hu]
    exact ⟨exists_wall_iff.1 ⟨u, rfl⟩,
      (Zone.exists_ofUniversal_iff ⟨ms, by omega⟩).1 ⟨_, hshows.zone_ofUniversal⟩⟩
  · rintro ⟨hin, hshown⟩
    obtain ⟨u, hu⟩ := exists_wall_iff.2 hin
    rw [← hu] at hshown
    obtain ⟨⟨w, second⟩, hof⟩ := (Zone.exists_ofUniversal_iff ⟨ms, by omega⟩).2 hshown
    exact ⟨⟨w, second, zone⟩, rfl, u, hu, Except.map_eq_ok_iff.2 ⟨_, hof, rfl⟩⟩

theorem not_near_of_ofEpochMillis (h : ofEpochMillis zone ms = .error e) :
    e = .beyondRange ∨ e = .dayApart ∧ ¬zone.Near := by
  rw [ofEpochMillis] at h
  split at h
  · exact Zone.not_near_of_ofUniversal (Except.map_eq_error_iff.1 h)
  · cases h
    exact .inl rfl

theorem ofEpochMillis_of_not_inCalendar (h : ¬InCalendar (ms * 1000)) :
    ofEpochMillis zone ms = .error .beyondRange := by
  rw [ofEpochMillis, Wall.ofMicros?_eq_none_iff.2 h]

theorem wall_of_ofEpochMillis (h : ofEpochMillis zone ms = .ok t) :
    t.zone = zone ∧ t.wall.micros = zone.shownAt (ms * 1000) := by
  obtain ⟨rfl, u, hu, hshows⟩ := ofEpochMillis_eq_ok_iff.1 h
  rw [← hu]
  exact ⟨rfl, (hshows.shownAt_eq_of_dvd ⟨ms, by omega⟩).symm⟩

theorem ofEpochMillis_inj (h : ofEpochMillis zone ms = .ok t) (h' : ofEpochMillis zone ms' = .ok t')
    (hwall : t'.wall = t.wall) (hsecond : t'.second = t.second) : ms' = ms := by
  obtain ⟨hzone, u, hu, hshows⟩ := ofEpochMillis_eq_ok_iff.1 h
  obtain ⟨hzone', u', hu', hshows'⟩ := ofEpochMillis_eq_ok_iff.1 h'
  have hof := hshows.zone_ofUniversal
  have hof' := hshows'.zone_ofUniversal
  rw [hwall, hsecond, hzone', ← hzone] at hof'
  rw [Zone.ofUniversal_inj hof' hof] at hu'
  omega

theorem epochMillis_of_ofEpochMillis (hz : zone ≠ .floating) (h : ofEpochMillis zone ms = .ok t) :
    t.epochMillis = if (zone.shownAt (ms * 1000) - ms * 1000).natAbs < dayMicros.natAbs
      then .ok ms else .error .dayApart := by
  rw [← (wall_of_ofEpochMillis h).2]
  obtain ⟨rfl, u, hu, hshows⟩ := ofEpochMillis_eq_ok_iff.1 h
  obtain ⟨o, hw, ho⟩ := Zone.exists_distance hz hshows.zone_ofUniversal
  have hnear : (t.wall.micros - ms * 1000).natAbs < dayMicros.natAbs ↔ o.natAbs < 86400 := by
    simp only [hw, hu, dayMicros, secondMicros]
    omega
  simp only [hnear]
  split
  · rename_i hlt
    rw [epochMillis, ho, withinDay_eq_ok hlt]
    have hinstant : instant t.wall o / 1000 = ms := by
      rw [instant]
      omega
    exact congrArg Except.ok hinstant
  · rename_i hlt
    rw [epochMillis, ho, withinDay_eq_error_iff.2 ⟨Nat.not_lt.1 hlt, rfl⟩]
    rfl

end Moment

end TimeWindow.Calendar
