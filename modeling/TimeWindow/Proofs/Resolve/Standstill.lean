import TimeWindow.Proofs.Resolve.WindowLaw

/-!
Windows of no units. Going back by nothing is going nowhere, but in the units that are taken on the
wall it leads to the first pass of the wall time. In the second pass of a time that the wall shows
twice this is an earlier instant, so such a window is empty at all other times only.
-/

namespace TimeWindow

open Calendar (CalendarError Moment Seasons Wall YearlyRules Zone secondMicros withinDay)

namespace Calendar

namespace Seasons

variable {z : Seasons} {u w : Wall}

theorem passes_of_ofUniversal (h : z.ofUniversal u = .ok (w, true)) :
    z.showsDaylight w true = .ok false ∧ z.showsDaylight w false = .ok true := by
  obtain ⟨-, a, -, twice, -, -, -, -, htwice, hpass⟩ := ofUniversal_eq_ok h
  rw [(Bool.and_eq_true_iff.1 hpass.symm).1] at htwice
  obtain ⟨b, hb, -, hlate⟩ := shows_of_ofUniversal h
  have hstandard : b = false := by
    rw [← Bool.not_eq_true]
    exact fun htrue => Bool.noConfusion (hlate htrue).1
  rw [hstandard] at hb
  have hreads := showsDaylight_second hb
  obtain ⟨v, hv, hvreads⟩ := (isRepeated_eq_ok_iff hreads).1 htwice
  exact ⟨hb, (showsDaylight_eq_ok_iff hreads).2 ⟨v, hv, by rw [hvreads]; rfl⟩⟩

end Seasons

namespace Moment

variable {t : Moment} {u : Wall} {e : CalendarError} {unit : TimeUnit} {now : Int}

theorem epochMillis_seasonal {z : Seasons} {w : Wall} {second b : Bool}
    (h : z.showsDaylight w second = .ok b) : epochMillis ⟨w, second, .seasonal z⟩ =
      (withinDay (z.distance b)).map fun o => instant w o / 1000 := by
  have hoffset : z.offset w second = withinDay (z.distance b) := by
    rw [Seasons.offset, h]
    rfl
  change (z.offset w second).map some >>= _ = _
  rw [hoffset]
  cases withinDay (z.distance b) <;> rfl

theorem Shows.epochMillis_passes (hu : t.Shows u) (hsecond : t.second = true) :
    ∃ z, t.zone = .seasonal z ∧ (z.standard.natAbs < 86400 ∨ z.daylight.natAbs < 86400) ∧
      t.epochMillis = (withinDay z.standard).map (fun o => instant t.wall o / 1000) ∧
      epochMillis { t with second := false } =
        (withinDay z.daylight).map fun o => instant t.wall o / 1000 := by
  obtain ⟨w, second, zone⟩ := t
  cases hsecond
  have hof := hu.zone_ofUniversal
  cases zone with
  | floating => cases hof
  | fixed distance =>
    obtain ⟨d, -, h⟩ := Except.bind_eq_ok_iff.1 hof
    obtain ⟨v, -, h⟩ := Except.bind_eq_ok_iff.1 h
    cases h
  | seasonal z =>
    obtain ⟨hstandard, hdaylight⟩ := Seasons.passes_of_ofUniversal hof
    refine ⟨z, rfl, ?_, epochMillis_seasonal hstandard, epochMillis_seasonal hdaylight⟩
    -- The instant itself, taken for a wall time, is at one of the two distances.
    obtain ⟨o, -, -, -, ho, -⟩ := Seasons.ofUniversal_eq_ok hof
    obtain ⟨b, -, rfl, hlt⟩ := Seasons.offset_eq_ok_iff.1 ho
    cases b with
    | false => exact .inl hlt
    | true => exact .inr hlt

theorem Shows.epochMillis_first_pass_ne (hu : t.Shows u) (hsecond : t.second = true) :
    epochMillis { t with second := false } ≠ t.epochMillis := by
  obtain ⟨z, -, hlt, hsecondPass, hfirstPass⟩ := hu.epochMillis_passes hsecond
  have hahead := z.standard_lt_daylight
  rw [hsecondPass, hfirstPass]
  intro hsame
  by_cases hstandard : z.standard.natAbs < 86400
  · rw [withinDay_eq_ok hstandard] at hsame
    obtain ⟨o, ho, hms⟩ := Except.map_eq_ok_iff.1 hsame
    obtain ⟨rfl, -⟩ := withinDay_eq_ok_iff.1 ho
    simp only [instant, secondMicros] at hms
    omega
  · rw [withinDay_eq_ok (hlt.resolve_left hstandard)] at hsame
    obtain ⟨o, ho, -⟩ := Except.map_eq_ok_iff.1 hsame.symm
    exact hstandard (withinDay_eq_ok_iff.1 ho).2

theorem Shows.epochMillis_first_pass (hu : t.Shows u) (hsecond : t.second = true)
    (hnow : t.epochMillis = .ok now) : ∃ z, t.zone = .seasonal z ∧
      epochMillis { t with second := false } =
        (withinDay z.daylight).map fun _ => now - (z.daylight - z.standard) * 1000 := by
  obtain ⟨z, hzone, -, hsecondPass, hfirstPass⟩ := hu.epochMillis_passes hsecond
  refine ⟨z, hzone, ?_⟩
  obtain ⟨o, ho, rfl⟩ := Except.map_eq_ok_iff.1 (hsecondPass.symm.trans hnow)
  obtain ⟨rfl, -⟩ := withinDay_eq_ok_iff.1 ho
  rw [hfirstPass]
  cases hdaylight : withinDay z.daylight with
  | error e => rfl
  | ok o =>
    obtain ⟨rfl, -⟩ := withinDay_eq_ok_iff.1 hdaylight
    refine congrArg Except.ok ?_
    simp only [instant, secondMicros]
    omega

theorem back_zero_error (hz : t.zone ≠ .floating) (helapsed : unit.isElapsed = true)
    (h : t.epochMillis = .error e) : t.back 0 unit = .error e := by
  have hcarried : (Step.ofCount 0 unit).carried = .ok {} := by
    cases unit <;> rfl
  have huniversal : t.universal = .error e :=
    Except.bind_eq_error_iff.2 (.inl ((epochMillis_eq_error_iff_offset hz).1 h))
  rw [back, hcarried]
  refine (if_pos ⟨helapsed, hz⟩).trans ?_
  rw [inUniversal, huniversal]
  rfl

theorem Shows.epochMillis_back_zero_iff (hu : t.Shows u) (hz : t.zone ≠ .floating)
    (unit : TimeUnit) : (t.back 0 unit).bind epochMillis = t.epochMillis ↔
      unit.isElapsed = true ∨ t.second = false := by
  cases helapsed : unit.isElapsed with
  | true =>
    refine iff_of_true ?_ (.inl rfl)
    cases h : t.epochMillis with
    | error e =>
      rw [back_zero_error hz helapsed h]
      rfl
    | ok ms =>
      rw [hu.back_zero hz h, if_pos helapsed]
      exact h
  | false =>
    rw [back_zero_wall helapsed]
    cases hsecond : t.second with
    | true => exact iff_of_false (hu.epochMillis_first_pass_ne hsecond) (by simp)
    | false =>
      refine iff_of_true ?_ (.inr rfl)
      rw [← hsecond]
      rfl

end Moment

end Calendar

namespace Options

variable {o : Options} {d : Descriptor} {t : Moment} {u : Wall} {unit : TimeUnit} {now : Int}

theorem resolveAt_zero (hwindow : d.toWindow = ⟨unit, 0, .now⟩) (hu : t.Shows u)
    (hz : t.zone ≠ .floating) (hnow : t.epochMillis = .ok now) : (o.resolveAt d t).1 =
      ((t.back 0 unit).bind Moment.epochMillis).map fun offset => o.range now offset now := by
  obtain ⟨w, key⟩ := d
  cases hwindow
  have hback := hu.back_zero hz hnow unit
  rw [resolveAt_now rfl hnow, offsetMoment_of_ok hback, hback]
  rfl

theorem resolveAt_zero_second (hwindow : d.toWindow = ⟨unit, 0, .now⟩) (hu : t.Shows u)
    (hz : t.zone ≠ .floating) (hnow : t.epochMillis = .ok now) (hwall : unit.isElapsed = false)
    (hsecond : t.second = true) : ∃ z, t.zone = .seasonal z ∧ (o.resolveAt d t).1 =
      (withinDay z.daylight).map fun _ => ⟨now - (z.daylight - z.standard) * 1000, now⟩ := by
  obtain ⟨z, hzone, hfirst⟩ := hu.epochMillis_first_pass hsecond hnow
  have hahead := z.standard_lt_daylight
  have hle : now - (z.daylight - z.standard) * 1000 ≤ now := by omega
  refine ⟨z, hzone, ?_⟩
  rw [resolveAt_zero hwindow hu hz hnow, Moment.back_zero_wall hwall]
  change (Moment.epochMillis { t with second := false }).map _ = _
  rw [hfirst]
  cases withinDay z.daylight with
  | error e => rfl
  | ok distance => exact congrArg Except.ok (range_now hle)

end Options

namespace Resolver

variable {r : Resolver} {reading : Reading} {t : Moment} {u : Wall}

/-- Going back by nothing moves nothing, and the window is empty, unless the unit is one of the wall
and the moment is a second pass; then the window is as long as daylight time was ahead. -/
theorem resolve_zero_count_iff (hface : r.face.moment reading = .ok t) (hshows : t.Shows u)
    (hz : t.zone ≠ .floating) (unit : TimeUnit) :
    ((t.back 0 unit).bind Moment.epochMillis = t.epochMillis ↔
      unit.isElapsed = true ∨ t.second = false) ∧
    ∀ now, t.epochMillis = .ok now → ∀ target d ds,
      r.options.descriptor target = .ok (d, ds) → d.toWindow = ⟨unit, 0, .now⟩ →
      ((r.resolve target reading).result = .ok ⟨now, now⟩ ↔
        unit.isElapsed = true ∨ t.second = false) ∧
      (unit.isElapsed = false → t.second = true → ∃ z, t.zone = .seasonal z ∧
        (z.daylight.natAbs < 86400 → (r.resolve target reading).result =
          .ok ⟨now - (z.daylight - z.standard) * 1000, now⟩)) := by
  have hiff := hshows.epochMillis_back_zero_iff hz unit
  refine ⟨hiff, fun now hnow target d ds hd hwindow => ⟨?_, fun hwall hsecond => ?_⟩⟩
  · rw [resolve_eq_ok_iff hd hface]
    by_cases hstill : unit.isElapsed = true ∨ t.second = false
    · refine iff_of_true ?_ hstill
      rw [Options.resolveAt_zero hwindow hshows hz hnow, hiff.2 hstill, hnow]
      exact congrArg Except.ok (Options.range_now (Int.le_refl now))
    · rw [not_or, Bool.not_eq_true, Bool.not_eq_false] at hstill
      refine iff_of_false (fun hempty => ?_) (by simp [hstill])
      obtain ⟨z, -, hmoved⟩ := Options.resolveAt_zero_second (o := r.options) hwindow hshows hz hnow
        hstill.1 hstill.2
      have hahead := z.standard_lt_daylight
      obtain ⟨o, -, hrange⟩ := Except.map_eq_ok_iff.1 (hmoved.symm.trans hempty)
      have hstart := congrArg Range.start hrange
      dsimp only at hstart
      omega
  · obtain ⟨z, hzone, hmoved⟩ := Options.resolveAt_zero_second (o := r.options) hwindow hshows hz hnow
      hwall hsecond
    refine ⟨z, hzone, fun hlt => (resolve_eq_ok_iff hd hface).2 ?_⟩
    rw [hmoved, Calendar.withinDay_eq_ok hlt]
    rfl

/-- When the wall shows half past one for the second time, no hours back is now and no months back
is an hour ago. -/
theorem resolve_zero_count_repeated_hour :
    let rules : YearlyRules := ⟨-18000, -14400, ⟨3, 2, 0, 7200⟩, ⟨11, 1, 0, 7200⟩⟩
    let r : Resolver := { face := .universal rules.zone }
    let reading : Reading := ⟨⟨1793514600000000, by decide, by decide⟩, false⟩
    (r.resolve (.descriptor (Window.descriptor ⟨.hour, 0, .now⟩)) reading).result =
        .ok ⟨1793514600000, 1793514600000⟩ ∧
      (r.resolve (.descriptor (Window.descriptor ⟨.month, 0, .now⟩)) reading).result =
        .ok ⟨1793511000000, 1793514600000⟩ := by
  intro rules r reading
  let z : Seasons := ⟨.yearly rules, -18000, -14400, by decide⟩
  let t : Moment := ⟨⟨1793496600000000, by decide, by decide⟩, true, rules.zone⟩
  have hzone : rules.zone = .seasonal z := by decide +kernel
  have haware : t.zone ≠ .floating := by
    change rules.zone ≠ .floating
    rw [hzone]
    exact Zone.noConfusion
  have hface : r.face.moment reading = .ok t := by decide +kernel
  have hnow : t.epochMillis = .ok 1793514600000 := by decide +kernel
  refine ⟨?_, ?_⟩
  · have hhour := (resolve_zero_count_iff hface hface haware .hour).2 1793514600000 hnow
      (.descriptor (Window.descriptor ⟨.hour, 0, .now⟩)) _ _ rfl rfl
    exact hhour.1.2 (.inl rfl)
  · have hmonth := (resolve_zero_count_iff hface hface haware .month).2 1793514600000 hnow
      (.descriptor (Window.descriptor ⟨.month, 0, .now⟩)) _ _ rfl rfl
    obtain ⟨z', hz', hmoved⟩ := hmonth.2 rfl rfl
    cases hzone.symm.trans hz'
    exact hmoved (by decide)

theorem resolve_zero_days_not_empty :
    let rules : YearlyRules := ⟨-18000, -14400, ⟨3, 2, 0, 7200⟩, ⟨11, 1, 0, 7200⟩⟩
    let r : Resolver := { face := .universal rules.zone }
    let target : Target := .key (.ofText "unit=(Day)&count=(0)&referenceTime=(now)")
    let reading : Reading := ⟨⟨1793514600000000, by decide, by decide⟩, false⟩
    ∃ t, r.face.moment reading = .ok t ∧ t.epochMillis = .ok 1793514600000 ∧
      (t.back 0 .day).bind Moment.epochMillis = .ok 1793511000000 ∧
      (r.resolve target reading).result = .ok ⟨1793511000000, 1793514600000⟩ := by
  intro rules r target reading
  let t : Moment := ⟨⟨1793496600000000, by decide, by decide⟩, true, rules.zone⟩
  have hface : r.face.moment reading = .ok t := by decide +kernel
  have hread : Key.read "unit=(Day)&count=(0)&referenceTime=(now)" = .ok ⟨.day, 0, .now⟩ := by cbv
  have hd := r.options.descriptor_of_read hread
  refine ⟨t, hface, by decide +kernel, by decide +kernel, ?_⟩
  exact (resolve_eq_ok_iff hd hface).2 (by decide +kernel)

end Resolver

end TimeWindow
