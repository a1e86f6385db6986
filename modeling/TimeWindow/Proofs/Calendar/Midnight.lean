import Mathlib.Order.Bounds.Basic
import TimeWindow.Proofs.Calendar.Instant

/-!
Midnights that periods begin with. By its rules a zone shows a wall time at every instant; the first
instant that shows a day of a period is the midnight of its first day, unless the wall skips this
midnight, shows it twice, or was ahead for a while shortly before it.
-/

namespace TimeWindow.Calendar

namespace Seasons

variable {z : Seasons} {w u : Wall} {second : Bool} {n o day : Int} {inPeriod : Int → Prop}

def shownAt (z : Seasons) (n : Int) : Int :=
  n + z.distance (z.rules.isDaylight (n / secondMicros)) * secondMicros

def standardSecond (z : Seasons) (w : Wall) : Int :=
  w.micros / secondMicros - z.standard

def daylightSecond (z : Seasons) (w : Wall) : Int :=
  w.micros / secondMicros - z.daylight

/-- The wall shows a time neither in standard time nor in daylight time. -/
def Skips (z : Seasons) (w : Wall) : Prop :=
  z.rules.isDaylight (z.standardSecond w) = true ∧ z.rules.isDaylight (z.daylightSecond w) = false

/-- The wall shows a time in daylight time and again in standard time. -/
def Repeats (z : Seasons) (w : Wall) : Prop :=
  z.rules.isDaylight (z.standardSecond w) = false ∧ z.rules.isDaylight (z.daylightSecond w) = true

/-- Daylight time that is over before a standard midnight has shown a day of the period that begins
with this midnight, and has begun after the daylight midnight. -/
def Overtakes (z : Seasons) (w : Wall) (inPeriod : Int → Prop) : Prop :=
  z.rules.isDaylight (z.standardSecond w) = false ∧
    z.rules.isDaylight (z.daylightSecond w) = false ∧
      ∃ s, z.daylightSecond w < s ∧ s < z.standardSecond w ∧ z.rules.isDaylight s = true ∧
        inPeriod ((s + z.daylight) / 86400)

theorem dvd_of_second (hw : w.micros = n * secondMicros) : 1000 ∣ w.micros :=
  ⟨n * 1000, by rw [hw]; simp only [secondMicros]; omega⟩

theorem readsDaylight_eq (hsmall : z.standard.natAbs < 10 ^ 12) (hw : 1000 ∣ w.micros) :
    z.readsDaylight w = z.rules.isDaylight (z.standardSecond w) := by
  rw [readsDaylight, secondOf_eq_of_dvd hsmall hw, standardSecond]

theorem dvd_sub_saving (hw : 1000 ∣ w.micros) (hv : u.micros = w.micros - z.saving) :
    1000 ∣ u.micros := by
  simp only [saving, secondMicros] at hv
  omega

theorem standardSecond_sub_saving (hv : u.micros = w.micros - z.saving) :
    z.standardSecond u = z.daylightSecond w := by
  simp only [standardSecond, daylightSecond, saving, secondMicros] at *
  omega

theorem eq_of_showsDaylight (hsmall : z.standard.natAbs < 10 ^ 12)
    (hw : 1000 ∣ w.micros) {b : Bool} (hb : z.showsDaylight w second = .ok b) :
    b = (z.rules.isDaylight (z.standardSecond w) ||
      z.rules.isDaylight (z.daylightSecond w) && !second) := by
  rw [← readsDaylight_eq hsmall hw]
  cases hreads : z.readsDaylight w with
  | true =>
    rw [showsDaylight_of_reads hreads] at hb
    cases hb
    rfl
  | false =>
    obtain ⟨v, hv, rfl⟩ := (showsDaylight_eq_ok_iff hreads).1 hb
    rw [readsDaylight_eq hsmall (dvd_sub_saving hw hv), standardSecond_sub_saving hv]
    rfl

theorem exists_showsDaylight {b : Bool} (hb : z.showsDaylight w second = .ok b) (pass : Bool) :
    ∃ b', z.showsDaylight w pass = .ok b' := by
  cases hreads : z.readsDaylight w with
  | true => exact ⟨true, showsDaylight_of_reads hreads pass⟩
  | false =>
    obtain ⟨v, hv, -⟩ := (showsDaylight_eq_ok_iff hreads).1 hb
    exact ⟨_, (showsDaylight_eq_ok_iff hreads).2 ⟨v, hv, rfl⟩⟩

theorem offset_pass (hsmall : z.standard.natAbs < 10 ^ 12) (hw : 1000 ∣ w.micros)
    (hrepeats : ¬z.Repeats w) (ho : z.offset w second = .ok o) (pass : Bool) :
    z.offset w pass = .ok o := by
  obtain ⟨b, hb, rfl, hlt⟩ := offset_eq_ok_iff.1 ho
  obtain ⟨b', hb'⟩ := exists_showsDaylight hb pass
  have hsame : b' = b := by
    rw [eq_of_showsDaylight hsmall hw hb, eq_of_showsDaylight hsmall hw hb']
    rw [Repeats] at hrepeats
    cases hp : z.rules.isDaylight (z.standardSecond w) with
    | true => rfl
    | false =>
      cases hq : z.rules.isDaylight (z.daylightSecond w) with
      | true => exact absurd ⟨hp, hq⟩ hrepeats
      | false => rfl
  exact offset_eq_ok_iff.2 ⟨b, hsame ▸ hb', rfl, hlt⟩

theorem natAbs_standard_lt_of_ofUniversal (h : z.ofUniversal u = .ok (w, second)) :
    z.standard.natAbs < 10 ^ 12 := by
  obtain ⟨-, -, v, -, -, hmove, -⟩ := ofUniversal_eq_ok h
  have hu := And.intro u.first_le u.le_last
  have hv := And.intro v.first_le v.le_last
  simp only [firstMicros, lastMicros, secondMicros] at *
  omega

theorem dvd_of_standard (hu : 1000 ∣ u.micros)
    (hw : w.micros = u.micros + z.standard * secondMicros) : 1000 ∣ w.micros := by
  simp only [secondMicros] at hw
  omega

theorem standardSecond_of_standard (hw : w.micros = u.micros + z.standard * secondMicros) :
    z.standardSecond w = u.micros / secondMicros := by
  simp only [standardSecond, secondMicros] at *
  omega

theorem readsDaylight_standard (hsmall : z.standard.natAbs < 10 ^ 12) (hu : 1000 ∣ u.micros)
    (hw : w.micros = u.micros + z.standard * secondMicros) :
    z.readsDaylight w = z.rules.isDaylight (u.micros / secondMicros) := by
  rw [readsDaylight_eq hsmall (dvd_of_standard hu hw), standardSecond_of_standard hw]

theorem shownAt_of_ofUniversal (h : z.ofUniversal u = .ok (w, second)) (hu : 1000 ∣ u.micros) :
    z.shownAt u.micros = w.micros := by
  have hsmall := natAbs_standard_lt_of_ofUniversal h
  obtain ⟨b, hb, hinstant, hlate⟩ := shows_of_ofUniversal h
  have hdaylight : z.rules.isDaylight (u.micros / secondMicros) = b := by
    cases b with
    | true =>
      obtain ⟨-, v, hv, hvreads⟩ := hlate rfl
      have hstandard : v.micros = u.micros + z.standard * secondMicros := by
        rw [hv, hinstant, distance_true, saving, Int.sub_mul]
        omega
      rw [← readsDaylight_standard hsmall hu hstandard, hvreads]
    | false =>
      rw [distance_false] at hinstant
      rw [← readsDaylight_standard (w := w) hsmall hu (by omega), ← Bool.not_eq_true]
      intro htrue
      rw [showsDaylight_of_reads htrue] at hb
      cases hb
  rw [shownAt, hdaylight, hinstant]
  omega

theorem shownAt_second (z : Seasons) (s : Int) :
    z.shownAt (s * secondMicros) = (s + z.distance (z.rules.isDaylight s)) * secondMicros := by
  rw [shownAt, Int.mul_ediv_cancel _ (by decide), Int.add_mul]

theorem seconds_of_midnight (hw : w.micros = day * dayMicros) :
    z.standardSecond w = day * 86400 - z.standard ∧
      z.daylightSecond w = day * 86400 - z.daylight := by
  have hsecond : w.micros / secondMicros = day * 86400 := by
    rw [hw]
    simp only [dayMicros, secondMicros]
    omega
  rw [standardSecond, daylightSecond, hsecond]
  exact ⟨rfl, rfl⟩

theorem le_of_le_shownAt (hw : w.micros = day * dayMicros) (h : day ≤ z.shownAt n / dayMicros) :
    z.daylightSecond w * secondMicros ≤ n ∧ (z.rules.isDaylight (n / secondMicros) = false →
      z.standardSecond w * secondMicros ≤ n) := by
  obtain ⟨hstandard, hdaylight⟩ := seconds_of_midnight (z := z) hw
  have hahead := z.standard_lt_daylight
  rw [hstandard, hdaylight]
  rw [shownAt] at h
  cases hs : z.rules.isDaylight (n / secondMicros) with
  | false =>
    rw [hs, distance_false] at h
    simp only [dayMicros, secondMicros] at *
    omega
  | true =>
    rw [hs, distance_true] at h
    simp only [dayMicros, secondMicros, Bool.true_eq_false, false_implies, and_true] at *
    omega

variable (hw : w.micros = day * dayMicros) (hday : inPeriod day) (hle : ∀ d, inPeriod d → day ≤ d)

include hw hday hle

theorem isLeast_daylight_iff :
    IsLeast {n | inPeriod (z.shownAt n / dayMicros)} (z.daylightSecond w * secondMicros) ↔
      z.rules.isDaylight (z.daylightSecond w) = true := by
  obtain ⟨-, hsecond⟩ := seconds_of_midnight (z := z) hw
  have hahead := z.standard_lt_daylight
  constructor
  · rintro ⟨hmem, -⟩
    have hshown := hle _ hmem
    rw [shownAt_second] at hshown
    rw [← Bool.not_eq_false]
    intro hfalse
    rw [hfalse, distance_false, hsecond] at hshown
    simp only [dayMicros, secondMicros] at hshown
    omega
  · intro htrue
    refine ⟨?_, fun n hn => (le_of_le_shownAt hw (hle _ hn)).1⟩
    have hshown : z.shownAt (z.daylightSecond w * secondMicros) / dayMicros = day := by
      rw [shownAt_second, htrue, distance_true, hsecond]
      simp only [dayMicros, secondMicros]
      omega
    rwa [Set.mem_ofPred_eq, hshown]

theorem isLeast_standard_iff (hstandard : z.rules.isDaylight (z.standardSecond w) = false) :
    IsLeast {n | inPeriod (z.shownAt n / dayMicros)} (z.standardSecond w * secondMicros) ↔
      z.rules.isDaylight (z.daylightSecond w) = false ∧ ¬z.Overtakes w inPeriod := by
  obtain ⟨hsecond, hsecond'⟩ := seconds_of_midnight (z := z) hw
  have hahead := z.standard_lt_daylight
  constructor
  · rintro ⟨-, hleast⟩
    constructor
    · rw [← Bool.not_eq_true]
      intro htrue
      have hearlier := hleast ((isLeast_daylight_iff hw hday hle).2 htrue).1
      simp only [secondMicros] at hearlier
      omega
    · rintro ⟨-, -, s, -, hlt, hs, hperiod⟩
      have hshown : z.shownAt (s * secondMicros) / dayMicros = (s + z.daylight) / 86400 := by
        rw [shownAt_second, hs, distance_true]
        simp only [dayMicros, secondMicros]
        omega
      have hearlier : z.standardSecond w * secondMicros ≤ s * secondMicros := by
        apply hleast
        rwa [Set.mem_ofPred_eq, hshown]
      simp only [secondMicros] at hearlier
      omega
  · rintro ⟨hfalse, hnot⟩
    constructor
    · have hshown : z.shownAt (z.standardSecond w * secondMicros) / dayMicros = day := by
        rw [shownAt_second, hstandard, distance_false, hsecond]
        simp only [dayMicros, secondMicros]
        omega
      rwa [Set.mem_ofPred_eq, hshown]
    · intro n hn
      obtain ⟨hlow, hhigh⟩ := le_of_le_shownAt hw (hle _ hn)
      cases hs : z.rules.isDaylight (n / secondMicros) with
      | false => exact hhigh hs
      | true =>
        -- The second of such an instant would be one that overtakes.
        by_contra hlt
        refine hnot ⟨hstandard, hfalse, n / secondMicros, ?_, ?_, hs, ?_⟩
        · have hne : z.daylightSecond w ≠ n / secondMicros := by
            intro heq
            rw [heq, hs] at hfalse
            cases hfalse
          simp only [secondMicros] at *
          omega
        · simp only [secondMicros] at *
          omega
        · have hshown : z.shownAt n / dayMicros = (n / secondMicros + z.daylight) / 86400 := by
            rw [shownAt, hs, distance_true]
            simp only [dayMicros, secondMicros]
            omega
          rwa [Set.mem_ofPred_eq, hshown] at hn

/-- The offset of a midnight leads to its first instant unless the midnight is skipped, is the
second of two, or is overtaken. -/
theorem isLeast_instant_iff (hsmall : z.standard.natAbs < 10 ^ 12)
    (ho : z.offset w second = .ok o) :
    IsLeast {n | inPeriod (z.shownAt n / dayMicros)} (Moment.instant w o) ↔
      ¬(z.Skips w ∨ z.Repeats w ∧ second = true ∨ z.Overtakes w inPeriod) := by
  obtain ⟨hsecond, hsecond'⟩ := seconds_of_midnight (z := z) hw
  have hwhole : w.micros = day * 86400 * secondMicros := by
    rw [hw]
    simp only [dayMicros, secondMicros]
    omega
  obtain ⟨b, hb, rfl, -⟩ := offset_eq_ok_iff.1 ho
  have hshows := eq_of_showsDaylight hsmall (dvd_of_second hwhole) hb
  cases b with
  | true =>
    have hinstant : Moment.instant w (z.distance true) = z.daylightSecond w * secondMicros := by
      rw [Moment.instant, hwhole, hsecond', distance_true, ← Int.sub_mul]
    rw [hinstant, isLeast_daylight_iff hw hday hle, Skips, Repeats, Overtakes]
    cases hp : z.rules.isDaylight (z.standardSecond w) <;>
      cases hq : z.rules.isDaylight (z.daylightSecond w) <;> simp_all
  | false =>
    have hinstant : Moment.instant w (z.distance false) = z.standardSecond w * secondMicros := by
      rw [Moment.instant, hwhole, hsecond, distance_false, ← Int.sub_mul]
    have hstandard : z.rules.isDaylight (z.standardSecond w) = false := by
      cases hp : z.rules.isDaylight (z.standardSecond w) with
      | false => rfl
      | true =>
        rw [hp] at hshows
        cases hshows
    rw [hinstant, isLeast_standard_iff hw hday hle hstandard, Skips, Repeats, hstandard]
    cases hq : z.rules.isDaylight (z.daylightSecond w) <;> simp_all

omit hw hday hle in
theorem Lasting.not_overtakes (h : z.Lasting) : ¬z.Overtakes w inPeriod := by
  rintro ⟨hstandard, hdaylight, s, hlow, hhigh, hs, -⟩
  have hshift : z.standardSecond w - (z.daylight - z.standard) = z.daylightSecond w := by
    rw [standardSecond, daylightSecond]
    omega
  have := h.isDaylight_sub hs hstandard (by omega) (by omega)
  rw [hshift, hdaylight] at this
  cases this

end Seasons

namespace Zone

def shownAt : Zone → Int → Int
  | .floating, n => n
  | .fixed distance, n => n + distance * secondMicros
  | .seasonal z, n => z.shownAt n

def Skips : Zone → Wall → Prop
  | .seasonal z, w => z.Skips w
  | _, _ => False

def Repeats : Zone → Wall → Prop
  | .seasonal z, w => z.Repeats w
  | _, _ => False

def Overtakes : Zone → Wall → (Int → Prop) → Prop
  | .seasonal z, w, inPeriod => z.Overtakes w inPeriod
  | _, _, _ => False

variable {zone : Zone} {inPeriod : Int → Prop} {w : Wall}

theorem Lasting.not_overtakes (h : zone.Lasting) : ¬zone.Overtakes w inPeriod := by
  cases zone with
  | floating | fixed _ => exact id
  | seasonal z => exact Seasons.Lasting.not_overtakes h

end Zone

namespace Moment

variable {t start : Moment} {u : Wall} {n day ms : Int} {inPeriod : Int → Prop}

theorem Shows.natAbs_standard_lt {z : Seasons} (hu : t.Shows u) (hz : t.zone = .seasonal z) :
    z.standard.natAbs < 10 ^ 12 := by
  have hof := hu.zone_ofUniversal
  rw [hz] at hof
  exact Seasons.natAbs_standard_lt_of_ofUniversal hof

theorem Shows.shownAt_eq_of_dvd (hu : t.Shows u) (hms : 1000 ∣ u.micros) :
    t.zone.shownAt u.micros = t.wall.micros := by
  have hof := hu.zone_ofUniversal
  cases hz : t.zone with
  | floating =>
    rw [hz] at hof
    exact congrArg (fun shown => shown.1.micros) (Except.ok.inj hof)
  | fixed distance =>
    rw [hz] at hof
    obtain ⟨d, hd, hw⟩ := Zone.ofUniversal_fixed_eq_ok hof
    obtain ⟨rfl, -⟩ := withinDay_eq_ok_iff.1 hd
    exact hw.symm
  | seasonal z =>
    rw [hz] at hof
    exact Seasons.shownAt_of_ofUniversal hof hms

theorem Shows.shownAt_eq (hu : t.Shows u) (hn : u.micros = n * secondMicros) :
    t.zone.shownAt u.micros = t.wall.micros :=
  hu.shownAt_eq_of_dvd (Seasons.dvd_of_second hn)

variable (hu : t.Shows u) (hz : t.zone ≠ .floating) (hzone : start.zone = t.zone)
  (hw : start.wall.micros = day * dayMicros) (hms : start.epochMillis = .ok ms)

include hu hz hzone hw hms

theorem isLeast_epochMillis_iff (hday : inPeriod day) (hle : ∀ d, inPeriod d → day ≤ d) :
    IsLeast {n | inPeriod (t.zone.shownAt n / dayMicros)} (ms * 1000) ↔
      ¬(t.zone.Skips start.wall ∨ t.zone.Repeats start.wall ∧ start.second = true ∨
        t.zone.Overtakes start.wall inPeriod) := by
  obtain ⟨o, ho, rfl⟩ := exists_offset (hzone ▸ hz) hms
  have hinstant : instant start.wall o / 1000 * 1000 = instant start.wall o := by
    rw [instant, hw]
    simp only [dayMicros, secondMicros]
    omega
  rw [hinstant]
  rw [hzone] at ho
  cases hkind : t.zone with
  | floating => exact absurd hkind hz
  | fixed distance =>
    rw [hkind] at ho
    obtain ⟨rfl, -⟩ := withinDay_eq_ok_iff.1 (Zone.offset_fixed_eq_ok_iff.1 ho)
    refine iff_of_true ⟨?_, fun n hn => ?_⟩ (by rintro (h | ⟨h, -⟩ | h) <;> exact h)
    · have hshown : ((Zone.fixed distance).shownAt (instant start.wall distance)) / dayMicros = day := by
        rw [Zone.shownAt, instant, hw]
        simp only [dayMicros, secondMicros]
        omega
      rwa [Set.mem_ofPred_eq, hshown]
    · have hshown := hle _ hn
      rw [Zone.shownAt] at hshown
      rw [instant, hw]
      simp only [dayMicros, secondMicros] at *
      omega
  | seasonal z =>
    rw [hkind] at ho
    exact Seasons.isLeast_instant_iff hw hday hle (hu.natAbs_standard_lt hkind)
      (Zone.offset_seasonal_eq_ok_iff.1 ho)

theorem epochMillis_pass {pass : Bool}
    (h : t.zone.Repeats start.wall → pass = start.second) :
    epochMillis ⟨start.wall, pass, start.zone⟩ = .ok ms := by
  obtain ⟨o, ho, rfl⟩ := exists_offset (hzone ▸ hz) hms
  refine Except.bind_eq_ok_iff.2 ⟨some o, ?_, rfl⟩
  rw [hzone] at ho ⊢
  cases hkind : t.zone with
  | floating => exact absurd hkind hz
  | fixed distance =>
    rw [hkind] at ho
    exact ho
  | seasonal z =>
    rw [hkind] at ho h
    by_cases hrepeats : z.Repeats start.wall
    · rwa [h hrepeats]
    · have hwhole : start.wall.micros = day * 86400 * secondMicros := by
        rw [hw]
        simp only [dayMicros, secondMicros]
        omega
      exact Zone.offset_seasonal_eq_ok_iff.2 (Seasons.offset_pass (hu.natAbs_standard_lt hkind)
        (Seasons.dvd_of_second hwhole) hrepeats (Zone.offset_seasonal_eq_ok_iff.1 ho) pass)

end Moment

end TimeWindow.Calendar
