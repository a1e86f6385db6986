import TimeWindow.Proofs.Calendar.Midnight
import TimeWindow.Proofs.Resolve.Offset

/-!
The reference instant of a period against the first instant of the period. All readings of a period
lead to one midnight on the wall. In a zone that changes between standard and daylight time around
this midnight its instant depends on the rules, and in a second pass also on the reading.
-/

namespace TimeWindow

open Calendar (Moment Seasons Wall YearlyRules Zone dayMicros secondMicros)
open Json (Value)

namespace Resolver

variable {r : Resolver} {value : Value} {reference : Reference} {given : Option Moment}
  {reading : Reading} {t start : Moment}

theorem reference_eq_ok_iff (hvalue : Reference.ofValue value = .ok reference)
    (hnow : (given.map .ok).getD (r.face.moment reading) = .ok t) :
    (r.reference value given reading).result = .ok start ↔
      r.options.referenceMoment reference t = .ok start := by
  rw [Resolver.reference, hnow]
  dsimp only
  rw [Options.referenceMomentOf, hvalue, Except.mapError_eq_ok_iff]

/-- The reference instant is the first instant of the period unless the wall skips the midnight of
the period, shows it twice and is in the second pass, or has been ahead of it shortly before. Two
readings of the period have one reference instant if their passes agree on a midnight that is shown
twice. -/
theorem reference_first_instant {u : Wall} {ms : Int}
    (hvalue : Reference.ofValue value = .ok reference) (hne : reference ≠ .now)
    (hnow : (given.map .ok).getD (r.face.moment reading) = .ok t) (hshows : t.Shows u)
    (hzone : t.zone ≠ .floating) (hstart : (r.reference value given reading).result = .ok start)
    (hms : start.epochMillis = .ok ms) :
    let inPeriod := fun day => reference.SamePeriod r.options.weekStart day t.wall.day
    (IsLeast {n | inPeriod (t.zone.shownAt n / dayMicros)} (ms * 1000) ↔
      ¬(t.zone.Skips start.wall ∨ t.zone.Repeats start.wall ∧ start.second = true ∨
        t.zone.Overtakes start.wall inPeriod)) ∧
    (t.zone.Lasting → ¬t.zone.Overtakes start.wall inPeriod) ∧
    (reference = .thisWeek → start.second = false) ∧
    (∀ n, u.micros = n * secondMicros → t.zone.shownAt u.micros = t.wall.micros) ∧
    ∀ (given' : Option Moment) (reading' : Reading) (t' start' : Moment),
      (given'.map .ok).getD (r.face.moment reading') = .ok t' → t'.zone = t.zone →
      inPeriod t'.wall.day → (r.reference value given' reading').result = .ok start' →
        start'.wall = start.wall ∧
          ((t.zone.Repeats start.wall → start'.second = start.second) →
            start'.epochMillis = .ok ms) := by
  intro inPeriod
  obtain ⟨hwall, hsecond, hsame⟩ := (Options.referenceMoment_eq_ok_iff hne).1
    ((reference_eq_ok_iff hvalue hnow).1 hstart)
  refine ⟨?_, Zone.Lasting.not_overtakes, fun hweek => ?_, fun n hn => hshows.shownAt_eq hn, ?_⟩
  · exact Moment.isLeast_epochMillis_iff hshows hzone hsame hwall hms
      (Reference.samePeriod_firstDay _ reference _) fun d hd => hd.firstDay_le
  · rw [hsecond, hweek, decide_eq_false (not_not.2 rfl), Bool.and_false]
  · intro given' reading' t' start' hnow' hzone' hperiod hstart'
    obtain ⟨hwall', -, hsame'⟩ := (Options.referenceMoment_eq_ok_iff hne).1
      ((reference_eq_ok_iff hvalue hnow').1 hstart')
    have hmidnight : start'.wall = start.wall := by
      apply Wall.ext_micros
      rw [hwall, hwall', Reference.samePeriod_iff.1 hperiod]
    refine ⟨hmidnight, fun hpass => ?_⟩
    have hkept := Moment.epochMillis_pass hshows hzone hsame hwall hms hpass
    rwa [← hmidnight, hsame, ← hzone', ← hsame'] at hkept

/-- Where daylight time ends an hour after its last midnight, half past midnight is shown twice.
Only the first pass goes back to the first instant of the day. -/
theorem reference_first_instant_two_passes :
    let rules : YearlyRules := ⟨-18000, -14400, ⟨3, 2, 0, 0⟩, ⟨11, 1, 0, 3600⟩⟩
    let r : Resolver := { face := .universal rules.zone }
    let earlier : Reading := ⟨⟨1793507400000000, by decide, by decide⟩, false⟩
    let later : Reading := ⟨⟨1793511000000000, by decide, by decide⟩, false⟩
    let midnight : Wall := ⟨1793491200000000, by decide, by decide⟩
    let shown := {n | rules.zone.shownAt n / dayMicros = 20758}
    ((r.reference (.ofText "today") none earlier).result = .ok ⟨midnight, false, rules.zone⟩ ∧
        IsLeast shown (1793505600000 * 1000)) ∧
      (r.reference (.ofText "today") none later).result = .ok ⟨midnight, true, rules.zone⟩ ∧
        ¬IsLeast shown (1793509200000 * 1000) := by
  intro rules r earlier later midnight shown
  let z : Seasons := ⟨.yearly rules, -18000, -14400, by decide⟩
  let halfPast : Wall := ⟨1793493000000000, by decide, by decide⟩
  have hzone : rules.zone = .seasonal z := by decide +kernel
  have hstandard : rules.isDaylight (z.standardSecond midnight) = false := by decide +kernel
  have hdaylight : rules.isDaylight (z.daylightSecond midnight) = true := by decide +kernel
  have haware : rules.zone ≠ .floating := by
    rw [hzone]
    exact Zone.noConfusion
  have htoday : Reference.ofValue (.ofText "today") = .ok .today := by cbv
  have hreading : ((none : Option Moment).map Except.ok).getD (r.face.moment earlier) =
      .ok ⟨halfPast, false, rules.zone⟩ := by decide +kernel
  have hreading' : ((none : Option Moment).map Except.ok).getD (r.face.moment later) =
      .ok ⟨halfPast, true, rules.zone⟩ := by decide +kernel
  have hstart : (r.reference (.ofText "today") none earlier).result =
      .ok ⟨midnight, false, rules.zone⟩ :=
    (reference_eq_ok_iff htoday hreading).2 (by decide +kernel)
  have hstart' : (r.reference (.ofText "today") none later).result =
      .ok ⟨midnight, true, rules.zone⟩ :=
    (reference_eq_ok_iff htoday hreading').2 (by decide +kernel)
  have hmillis : Moment.epochMillis ⟨midnight, false, rules.zone⟩ = .ok 1793505600000 := by
    decide +kernel
  have hmillis' : Moment.epochMillis ⟨midnight, true, rules.zone⟩ = .ok 1793509200000 := by
    decide +kernel
  have hfirst := reference_first_instant htoday (by decide) hreading hreading haware hstart hmillis
  have hsecond := reference_first_instant htoday (by decide) hreading' hreading' haware hstart'
    hmillis'
  refine ⟨⟨hstart, hfirst.1.2 ?_⟩, hstart', fun h => hsecond.1.1 h ?_⟩
  · rw [hzone]
    rintro (⟨h, -⟩ | ⟨-, h⟩ | ⟨-, h, -⟩)
    · exact Bool.noConfusion (hstandard.symm.trans h)
    · exact Bool.noConfusion h
    · exact Bool.noConfusion (hdaylight.symm.trans h)
  · rw [hzone]
    exact .inr (.inl ⟨⟨hstandard, hdaylight⟩, rfl⟩)

/-- Where daylight time begins at midnight the day begins an hour later on the wall, and its
reference instant still lies in the day before. -/
theorem reference_before_skipped_midnight :
    let rules : YearlyRules := ⟨-18000, -14400, ⟨3, 2, 0, 0⟩, ⟨11, 1, 0, 3600⟩⟩
    let r : Resolver := { face := .universal rules.zone }
    let noon : Reading := ⟨⟨1772985600000000, by decide, by decide⟩, false⟩
    ∃ start, (r.reference (.ofText "today") none noon).result = .ok start ∧
      start.epochMillis = .ok 1772942400000 ∧
        ¬IsLeast {n | rules.zone.shownAt n / dayMicros = 20520} (1772942400000 * 1000) := by
  intro rules r noon
  let midnight : Wall := ⟨1772928000000000, by decide, by decide⟩
  have htoday : Reference.ofValue (.ofText "today") = .ok .today := by cbv
  have hreading : ((none : Option Moment).map Except.ok).getD (r.face.moment noon) =
      .ok ⟨⟨1772971200000000, by decide, by decide⟩, false, rules.zone⟩ := by decide +kernel
  have hstart : r.options.referenceMoment .today
      ⟨⟨1772971200000000, by decide, by decide⟩, false, rules.zone⟩ =
        .ok ⟨midnight, false, rules.zone⟩ := by decide +kernel
  refine ⟨_, (reference_eq_ok_iff htoday hreading).2 hstart, by decide +kernel, fun h => ?_⟩
  have hbefore : rules.zone.shownAt (1772942400000 * 1000) / dayMicros = 20519 := by decide +kernel
  exact absurd (hbefore.symm.trans h.1) (by decide)

end Resolver

end TimeWindow
