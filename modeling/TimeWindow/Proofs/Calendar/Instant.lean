import TimeWindow.Calendar.Period
import TimeWindow.Proofs.Calendar.Back
import TimeWindow.Proofs.Calendar.Refusal

/-!
Instants that moments of a zone stand for. The starts of the periods that a moment lies in are no
later than the moment, and going back by a count leads to the side that the sign of the count tells.
-/

namespace TimeWindow.Calendar

namespace Zone

/-- A zone whose wall is never turned back further than daylight time has lasted. -/
def Lasting : Zone → Prop
  | .floating => False
  | .fixed _ => True
  | .seasonal z => z.Lasting

def SavesWithinDay : Zone → Prop
  | .floating => False
  | .fixed _ => True
  | .seasonal z => z.daylight - z.standard < 86400

variable {zone : Zone} {u w : Wall} {second : Bool} {o o' : Int}

theorem SavesWithinDay.ne_floating (hz : zone.SavesWithinDay) : zone ≠ .floating := by
  rintro rfl
  exact hz

theorem Lasting.savesWithinDay (hz : zone.Lasting) : zone.SavesWithinDay := by
  cases zone with
  | floating => exact hz
  | fixed distance => exact trivial
  | seasonal z => exact hz.ahead_lt

theorem Lasting.ne_floating (hz : zone.Lasting) : zone ≠ .floating :=
  hz.savesWithinDay.ne_floating

theorem offset_fixed_eq_ok_iff {distance : Int} :
    (fixed distance).offset w second = .ok (some o) ↔ withinDay distance = .ok o :=
  Except.map_some_eq_ok_iff

theorem offset_seasonal_eq_ok_iff {z : Seasons} :
    (seasonal z).offset w second = .ok (some o) ↔ z.offset w second = .ok o :=
  Except.map_some_eq_ok_iff

theorem ofUniversal_fixed_eq_ok {distance : Int}
    (h : (fixed distance).ofUniversal u = .ok (w, second)) :
    ∃ d, withinDay distance = .ok d ∧ w.micros = u.micros + d * secondMicros := by
  obtain ⟨d, hd, h⟩ := Except.bind_eq_ok_iff.1 h
  obtain ⟨v, hv, h⟩ := Except.bind_eq_ok_iff.1 h
  cases h
  exact ⟨d, hd, Wall.move_eq_ok_iff.1 hv⟩

theorem instant_of_ofUniversal (hu : zone.ofUniversal u = .ok (w, second))
    (ho : zone.offset w second = .ok (some o)) : Moment.instant w o = u.micros := by
  cases zone with
  | floating => cases ho
  | fixed distance =>
    obtain ⟨d, hd, hw⟩ := ofUniversal_fixed_eq_ok hu
    cases hd.symm.trans (offset_fixed_eq_ok_iff.1 ho)
    rw [Moment.instant, hw]
    omega
  | seasonal z =>
    obtain ⟨b, hb, hinstant, -⟩ := Seasons.shows_of_ofUniversal hu
    obtain ⟨b', hb', rfl, -⟩ := Seasons.offset_eq_ok_iff.1 (offset_seasonal_eq_ok_iff.1 ho)
    cases hb.symm.trans hb'
    exact hinstant.symm

theorem natAbs_offset_lt (ho : zone.offset w second = .ok (some o)) : o.natAbs < 86400 := by
  cases zone with
  | floating => cases ho
  | fixed distance =>
    obtain ⟨rfl, hlt⟩ := withinDay_eq_ok_iff.1 (offset_fixed_eq_ok_iff.1 ho)
    exact hlt
  | seasonal z =>
    obtain ⟨b, -, -, hlt⟩ := Seasons.offset_eq_ok_iff.1 (offset_seasonal_eq_ok_iff.1 ho)
    exact hlt

theorem SavesWithinDay.offset_lt (hz : zone.SavesWithinDay) {v : Wall} {pass : Bool}
    (ho : zone.offset w second = .ok (some o)) (ho' : zone.offset v pass = .ok (some o')) :
    o < o' + 86400 := by
  cases zone with
  | floating => cases ho
  | fixed distance =>
    have h := (offset_fixed_eq_ok_iff.1 ho).symm.trans (offset_fixed_eq_ok_iff.1 ho')
    cases h
    omega
  | seasonal z =>
    obtain ⟨b, -, rfl, -⟩ := Seasons.offset_eq_ok_iff.1 (offset_seasonal_eq_ok_iff.1 ho)
    obtain ⟨b', -, rfl, -⟩ := Seasons.offset_eq_ok_iff.1 (offset_seasonal_eq_ok_iff.1 ho')
    have hb := z.distance_bounds b
    have hb' := z.distance_bounds b'
    have hsaving : z.daylight - z.standard < 86400 := hz
    omega

theorem offset_first_pass (ho : zone.offset w second = .ok (some o))
    (ho' : zone.offset w false = .ok (some o')) : o ≤ o' := by
  cases zone with
  | floating => cases ho
  | fixed distance =>
    have h := (offset_fixed_eq_ok_iff.1 ho).symm.trans (offset_fixed_eq_ok_iff.1 ho')
    cases h
    exact Int.le_refl _
  | seasonal z =>
    exact Seasons.offset_first_pass (offset_seasonal_eq_ok_iff.1 ho)
      (offset_seasonal_eq_ok_iff.1 ho')

theorem Lasting.instant_le (hz : zone.Lasting) {w₀ : Wall} {pass : Bool} {n : Int}
    (hu : zone.ofUniversal u = .ok (w, second)) (hle : w₀.micros ≤ w.micros)
    (hn : w₀.micros = n * secondMicros) (hpass : pass = true → second = true)
    (ho : zone.offset w₀ pass = .ok (some o)) : Moment.instant w₀ o ≤ u.micros := by
  cases zone with
  | floating => cases ho
  | fixed distance =>
    obtain ⟨d, hd, hw⟩ := ofUniversal_fixed_eq_ok hu
    cases hd.symm.trans (offset_fixed_eq_ok_iff.1 ho)
    simp only [Moment.instant]
    omega
  | seasonal z => exact hz.instant_le hu hle hn hpass (offset_seasonal_eq_ok_iff.1 ho)

end Zone

namespace Moment

/-- A moment is what the wall of its zone shows at an instant of universal time. -/
def Shows (t : Moment) (u : Wall) : Prop :=
  ofUniversal t.zone u = .ok t

variable {t t' : Moment} {u : Wall} {ms now : Int}

theorem Shows.zone_ofUniversal (h : t.Shows u) : t.zone.ofUniversal u = .ok (t.wall, t.second) := by
  obtain ⟨⟨w, second⟩, hu, ht⟩ := Except.map_eq_ok_iff.1 h
  rw [hu, ← ht]

theorem shows_of_ofUniversal {zone : Zone} (h : ofUniversal zone u = .ok t) :
    t.zone = zone ∧ t.Shows u := by
  obtain ⟨⟨w, second⟩, hu, rfl⟩ := Except.map_eq_ok_iff.1 h
  exact ⟨rfl, h⟩

theorem exists_offset (hz : t.zone ≠ .floating) (h : t.epochMillis = .ok ms) :
    ∃ o, t.zone.offset t.wall t.second = .ok (some o) ∧ ms = instant t.wall o / 1000 := by
  obtain ⟨shown, ho, h⟩ := Except.bind_eq_ok_iff.1 h
  cases shown with
  | some o =>
    cases h
    exact ⟨o, ho, rfl⟩
  | none => exact absurd ho (Zone.offset_ne_none hz _ _)

theorem universal_eq_ok_iff (hz : t.zone ≠ .floating) : t.universal = .ok u ↔
    ∃ o, t.zone.offset t.wall t.second = .ok (some o) ∧ u.micros = instant t.wall o := by
  have hmove : ∀ o, t.wall.move (-o * secondMicros) = .ok u ↔ u.micros = instant t.wall o := by
    intro o
    rw [Wall.move_eq_ok_iff, instant, Int.neg_mul]
    rfl
  rw [universal, Except.bind_eq_ok_iff]
  constructor
  · rintro ⟨shown, ho, h⟩
    cases shown with
    | some o => exact ⟨o, ho, (hmove o).1 h⟩
    | none => exact absurd ho (Zone.offset_ne_none hz _ _)
  · rintro ⟨o, ho, h⟩
    exact ⟨some o, ho, (hmove o).2 h⟩

theorem epochMillis_of_universal (hz : t.zone ≠ .floating) (h : t.universal = .ok u) :
    t.epochMillis = .ok (u.micros / 1000) := by
  obtain ⟨o, ho, hu⟩ := (universal_eq_ok_iff hz).1 h
  rw [hu]
  exact Except.bind_eq_ok_iff.2 ⟨some o, ho, rfl⟩

theorem Shows.epochMillis_eq (hu : t.Shows u) (hz : t.zone ≠ .floating) (h : t.epochMillis = .ok ms) :
    ms = u.micros / 1000 := by
  obtain ⟨o, ho, rfl⟩ := exists_offset hz h
  rw [Zone.instant_of_ofUniversal hu.zone_ofUniversal ho]

theorem Shows.universal_eq (hu : t.Shows u) (hz : t.zone ≠ .floating) (h : t.epochMillis = .ok ms) :
    t.universal = .ok u := by
  obtain ⟨o, ho, -⟩ := exists_offset hz h
  exact (universal_eq_ok_iff hz).2
    ⟨o, ho, (Zone.instant_of_ofUniversal hu.zone_ofUniversal ho).symm⟩

theorem Shows.eq_dayApart (hu : t.Shows u) (hz : t.zone ≠ .floating) {e : CalendarError}
    (h : t.Refused e) : e = .dayApart := by
  rcases h with _ | _ | _ | ⟨hreads, hearly⟩ | _
  · exact absurd rfl hz
  · exact absurd rfl hz
  · rfl
  · obtain ⟨b, hb, -⟩ := Seasons.shows_of_ofUniversal hu.zone_ofUniversal
    cases hb.symm.trans (Seasons.showsDaylight_eq_error_iff.2 ⟨hreads, hearly, rfl⟩)
  · rfl

theorem Shows.epochMillis_eq_ok_iff (hu : t.Shows u) (hz : t.zone ≠ .floating) :
    t.epochMillis = .ok (u.micros / 1000) ↔ ¬t.Refused .dayApart := by
  constructor
  · intro h
    exact exists_epochMillis_iff.1 ⟨_, h⟩ _
  · intro h
    obtain ⟨ms, hms⟩ := exists_epochMillis_iff.2 fun e he => h (hu.eq_dayApart hz he ▸ he)
    rwa [← hu.epochMillis_eq hz hms]

/-- A moment that is at the start of a second, not after another one on the wall, and in a second
pass only if the other one is. -/
structure Precedes (t₀ t : Moment) : Prop where
  zone_eq : t₀.zone = t.zone
  wall_le : t₀.wall.micros ≤ t.wall.micros
  whole : ∃ n, t₀.wall.micros = n * secondMicros
  second_of : t₀.second = true → t.second = true

theorem Precedes.epochMillis_le {t₀ : Moment} (h : t₀.Precedes t) (hu : t.Shows u)
    (hz : t.zone.Lasting) (hms : t₀.epochMillis = .ok ms) : ms ≤ u.micros / 1000 := by
  obtain ⟨o, ho, rfl⟩ := exists_offset (h.zone_eq ▸ hz.ne_floating) hms
  obtain ⟨n, hn⟩ := h.whole
  rw [h.zone_eq] at ho
  have := hz.instant_le hu.zone_ofUniversal h.wall_le hn h.second_of ho
  omega

variable {count m n : Int} {unit : TimeUnit} {t₁ t₂ : Moment} {ms₁ ms₂ : Int}

theorem back_zero_wall (hwall : unit.isElapsed = false) :
    t.back 0 unit = .ok { t with second := false } :=
  (back_wall_eq_ok_iff (by simp [hwall])).2 ⟨t.wall, (t.wall.exactBack_zero unit).symm, rfl⟩

theorem Shows.back_zero (hu : t.Shows u) (hz : t.zone ≠ .floating) (h : t.epochMillis = .ok ms)
    (unit : TimeUnit) :
    t.back 0 unit = .ok (if unit.isElapsed then t else { t with second := false }) := by
  cases helapsed : unit.isElapsed with
  | true =>
    exact (back_universal_eq_ok_iff ⟨helapsed, hz⟩).2
      ⟨u, u, hu.universal_eq hz h, (u.exactBack_zero unit).symm, hu⟩
  | false => exact back_zero_wall helapsed

theorem back_elapsed (helapsed : unit.isElapsed = true) (hz : t.zone ≠ .floating)
    (h : t.back count unit = .ok t') : ∃ u v : Wall, t.universal = .ok u ∧
      v.micros = u.exactBack count unit ∧ t'.zone = t.zone ∧ t'.Shows v := by
  obtain ⟨u, v, hu, hv, ht⟩ := (back_universal_eq_ok_iff ⟨helapsed, hz⟩).1 h
  exact ⟨u, v, hu, hv, shows_of_ofUniversal ht⟩

theorem back_wall (hwall : unit.isElapsed = false) (h : t.back count unit = .ok t') :
    t'.wall.micros = t.wall.exactBack count unit ∧ t'.second = false ∧ t'.zone = t.zone := by
  obtain ⟨v, hv, rfl⟩ := (back_wall_eq_ok_iff (by simp [hwall])).1 h
  exact ⟨hv, rfl, rfl⟩

theorem epochMillis_lt_of_wall (hz : t.zone.SavesWithinDay) (hzone : t'.zone = t.zone)
    (hfar : t'.wall.micros + dayMicros ≤ t.wall.micros) (hms : t'.epochMillis = .ok ms)
    (hnow : t.epochMillis = .ok now) : ms < now := by
  obtain ⟨o', ho', rfl⟩ := exists_offset (hzone ▸ hz.ne_floating) hms
  obtain ⟨o, ho, rfl⟩ := exists_offset hz.ne_floating hnow
  rw [hzone] at ho'
  have hlt := hz.offset_lt ho ho'
  simp only [instant, dayMicros, secondMicros] at *
  omega

theorem back_lt (hz : t.zone.SavesWithinDay) (h : n < m) (h₁ : t.back n unit = .ok t₁)
    (h₂ : t.back m unit = .ok t₂) (hms₁ : t₁.epochMillis = .ok ms₁)
    (hms₂ : t₂.epochMillis = .ok ms₂) : ms₂ < ms₁ := by
  have hzone₁ := back_zone h₁
  have hzone₂ := back_zone h₂
  cases helapsed : unit.isElapsed with
  | true =>
    obtain ⟨u, v₁, hu, hv₁, -, hshows₁⟩ := back_elapsed helapsed hz.ne_floating h₁
    obtain ⟨u', v₂, hu', hv₂, -, hshows₂⟩ := back_elapsed helapsed hz.ne_floating h₂
    cases hu.symm.trans hu'
    rw [hshows₁.epochMillis_eq (hzone₁ ▸ hz.ne_floating) hms₁,
      hshows₂.epochMillis_eq (hzone₂ ▸ hz.ne_floating) hms₂, hv₁, hv₂]
    have hfar := u.exactBack_add_minute_le h unit
    simp only [secondMicros] at hfar
    omega
  | false =>
    have hfar := t.wall.exactBack_add_day_le h helapsed
    rw [← (back_wall helapsed h₁).1, ← (back_wall helapsed h₂).1] at hfar
    exact epochMillis_lt_of_wall (hzone₁ ▸ hz) (hzone₂.trans hzone₁.symm) hfar hms₂ hms₁

theorem back_side (hz : t.zone.SavesWithinDay) (hnow : t.epochMillis = .ok now)
    (hback : t.back count unit = .ok t') (hms : t'.epochMillis = .ok ms) :
    (0 ≤ count → ms ≤ now) ∧ (count < 0 → now ≤ ms) := by
  have hzone := back_zone hback
  cases helapsed : unit.isElapsed with
  | true =>
    obtain ⟨u, v, hu, hv, -, hshows⟩ := back_elapsed helapsed hz.ne_floating hback
    cases hnow.symm.trans (epochMillis_of_universal hz.ne_floating hu)
    rw [hshows.epochMillis_eq (hzone ▸ hz.ne_floating) hms, hv]
    refine ⟨fun h => ?_, fun h => ?_⟩
    · have := u.exactBack_le unit h
      omega
    · have := u.lt_exactBack unit h
      omega
  | false =>
    obtain ⟨hwall, hsecond, -⟩ := back_wall helapsed hback
    rcases Int.lt_trichotomy count 0 with h | rfl | h
    · have hfar := t.wall.exactBack_add_day_le h helapsed
      rw [t.wall.exactBack_zero, ← hwall] at hfar
      have := epochMillis_lt_of_wall (hzone ▸ hz) hzone.symm hfar hnow hms
      omega
    · obtain ⟨o, ho, rfl⟩ := exists_offset hz.ne_floating hnow
      obtain ⟨o', ho', rfl⟩ := exists_offset (hzone ▸ hz.ne_floating) hms
      rw [t.wall.exactBack_zero] at hwall
      rw [Wall.ext_micros hwall, hsecond, hzone] at ho'
      have hfirst := Zone.offset_first_pass ho ho'
      simp only [instant, hwall, secondMicros]
      omega
    · have hfar := t.wall.exactBack_add_day_le h helapsed
      rw [t.wall.exactBack_zero, ← hwall] at hfar
      have := epochMillis_lt_of_wall hz hzone hfar hms hnow
      omega

end Moment

end TimeWindow.Calendar
