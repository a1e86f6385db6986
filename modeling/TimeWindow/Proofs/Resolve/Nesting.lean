import TimeWindow.Proofs.Resolve.WindowLaw

/-!
Windows in the order of their counts. One more unit always leads to an earlier instant: a unit is a
day or more on the wall, or time that passes, and daylight time is less than a day ahead. So the
windows that end now lie in each other, in universal time also those that are cut off.
-/

namespace TimeWindow

open Calendar (Moment Wall YearlyRules Zone)

namespace Calendar.Moment

structure Reaches (t : Moment) (count : Int) (unit : TimeUnit) (t' : Moment) : Prop where
  back_eq : t.back count unit = .ok t'
  placed : ∀ e, ¬t'.Refused e

/-- Two steps of one unit, the shorter one first, of which at most the longer one is cut off alone,
and then the shorter one does not lead beyond the end that the other is cut off to. -/
inductive Steps (t : Moment) (unit : TimeUnit) (n m : Int) : Prop
  | reached {t₁ t₂ : Moment} : t.Reaches n unit t₁ → t.Reaches m unit t₂ → Steps t unit n m
  | cut {t₁ : Moment} {ms : Int} : t.back n unit = .ok t₁ → t₁.epochMillis = .ok ms →
      firstMicros / 1000 ≤ ms → (∀ t₂, t.back m unit ≠ .ok t₂) → Steps t unit n m
  | bothCut : (∀ t₁, t.back n unit ≠ .ok t₁) → (∀ t₂, t.back m unit ≠ .ok t₂) → Steps t unit n m

variable {t t₁ t₂ : Moment} {unit : TimeUnit} {n m : Int}

theorem Reaches.instants_lt (h₁ : t.Reaches n unit t₁) (h₂ : t.Reaches m unit t₂)
    (hz : t.zone.SavesWithinDay) (h : n < m) :
    ∃ ms₁ ms₂, t₁.epochMillis = .ok ms₁ ∧ t₂.epochMillis = .ok ms₂ ∧ ms₂ < ms₁ := by
  obtain ⟨ms₁, hms₁⟩ := exists_epochMillis_iff.2 h₁.placed
  obtain ⟨ms₂, hms₂⟩ := exists_epochMillis_iff.2 h₂.placed
  exact ⟨ms₁, ms₂, hms₁, hms₂, back_lt hz h h₁.back_eq h₂.back_eq hms₁ hms₂⟩

end Calendar.Moment

namespace Options

variable {d d₁ d₂ : Descriptor} {t : Moment} {offset now : Int}

theorem offset_utc (d : Descriptor) (w : Wall) (second : Bool) :
    (offsetMoment d ⟨w, second, .utc⟩).1.epochMillis =
      .ok ((Wall.nearest (w.exactBack d.count d.unit)).micros / 1000) := by
  rw [offsetMoment_utc]
  exact Moment.epochMillis_utc _ false

theorem offset_utc_antitone (hz : t.zone = .utc) (hunit : d₁.unit = d₂.unit)
    (hcount : d₁.count ≤ d₂.count) : ∃ offset₁ offset₂,
      (offsetMoment d₁ t).1.epochMillis = .ok offset₁ ∧
        (offsetMoment d₂ t).1.epochMillis = .ok offset₂ ∧ offset₂ ≤ offset₁ := by
  obtain ⟨w, second, zone⟩ := t
  obtain rfl : zone = .utc := hz
  refine ⟨_, _, offset_utc d₁ w second, offset_utc d₂ w second, ?_⟩
  have hback : w.exactBack d₂.count d₂.unit ≤ w.exactBack d₁.count d₁.unit := by
    rw [hunit]
    rcases Int.lt_or_eq_of_le hcount with hlt | heq
    · exact Int.le_of_lt (w.exactBack_lt hlt d₂.unit)
    · rw [heq]
  have := Wall.nearest_mono hback
  omega

theorem offset_utc_le (hz : t.zone = .utc) (hcount : 0 ≤ d.count)
    (hoffset : (offsetMoment d t).1.epochMillis = .ok offset) (hnow : t.epochMillis = .ok now) :
    offset ≤ now := by
  obtain ⟨w, second, zone⟩ := t
  obtain rfl : zone = .utc := hz
  cases (offset_utc d w second).symm.trans hoffset
  cases (Moment.epochMillis_utc w second).symm.trans hnow
  have hnearest := Wall.nearest_mono (w.exactBack_le d.unit hcount)
  rw [Wall.micros_nearest w.first_le w.le_last] at hnearest
  omega

theorem offset_of_cut (hpos : 0 < d.count) (h : ∀ t', t.back d.count d.unit ≠ .ok t') :
    (offsetMoment d t).1.epochMillis = .ok (Calendar.firstMicros / 1000) := by
  rw [offsetMoment_of_forall_ne h, if_pos hpos]
  exact Moment.epochMillis_utc .first false

theorem exists_nested_offsets (hz : t.zone.SavesWithinDay) (hunit : d₁.unit = d₂.unit)
    (hpos : 0 < d₁.count) (hcount : d₁.count < d₂.count)
    (hsteps : t.zone = .utc ∨ (∀ e, ¬t.Refused e) ∧ t.Steps d₁.unit d₁.count d₂.count) :
    ∃ offset₁ offset₂ now, t.epochMillis = .ok now ∧
      (offsetMoment d₁ t).1.epochMillis = .ok offset₁ ∧
        (offsetMoment d₂ t).1.epochMillis = .ok offset₂ ∧
          (offset₁ = offset₂ ∨ offset₂ ≤ offset₁ ∧ offset₁ ≤ now) := by
  have hplaced : ∀ e, ¬t.Refused e :=
    hsteps.elim (fun hutc _ => Moment.not_refused_of_fixed hutc (by decide)) And.left
  obtain ⟨now, hnow⟩ := Moment.exists_epochMillis_iff.2 hplaced
  rcases hsteps with hutc | ⟨-, ⟨h₁, h₂⟩ | ⟨h₁, hms, hfirst, h₂⟩ | ⟨h₁, h₂⟩⟩
  · obtain ⟨offset₁, offset₂, hoffset₁, hoffset₂, hle⟩ :=
      offset_utc_antitone hutc hunit (Int.le_of_lt hcount)
    have hle' := offset_utc_le hutc (Int.le_of_lt hpos) hoffset₁ hnow
    exact ⟨offset₁, offset₂, now, hnow, hoffset₁, hoffset₂, .inr ⟨hle, hle'⟩⟩
  · obtain ⟨offset₁, offset₂, hoffset₁, hoffset₂, hlt⟩ := h₁.instants_lt h₂ hz hcount
    have hle := (Moment.back_side hz hnow h₁.back_eq hoffset₁).1 (Int.le_of_lt hpos)
    rw [offsetMoment_of_ok h₁.back_eq, offsetMoment_of_ok (hunit ▸ h₂.back_eq)]
    exact ⟨offset₁, offset₂, now, hnow, hoffset₁, hoffset₂, .inr ⟨Int.le_of_lt hlt, hle⟩⟩
  · have hle := (Moment.back_side hz hnow h₁ hms).1 (Int.le_of_lt hpos)
    have hoffset₂ := offset_of_cut (Int.lt_trans hpos hcount) (hunit ▸ h₂)
    rw [offsetMoment_of_ok h₁]
    exact ⟨_, _, now, hnow, hms, hoffset₂, .inr ⟨hfirst, hle⟩⟩
  · have hoffset₂ := offset_of_cut (Int.lt_trans hpos hcount) (hunit ▸ h₂)
    exact ⟨_, _, now, hnow, offset_of_cut hpos h₁, hoffset₂, .inl rfl⟩

end Options

namespace Resolver

theorem resolve_now {r : Resolver} {reading : Reading} {target : Target} {t : Moment}
    {d : Descriptor} {ds : List Diagnostic} {offset now : Int}
    (hd : r.options.descriptor target = .ok (d, ds)) (hface : r.face.moment reading = .ok t)
    (href : d.reference = .now) (hnow : t.epochMillis = .ok now)
    (hoffset : (Options.offsetMoment d t).1.epochMillis = .ok offset) :
    (r.resolve target reading).result = .ok (r.options.range now offset now) := by
  rw [resolve_eq_ok_iff hd hface, Options.resolveAt_now href hnow, hoffset]
  rfl

/-- One more unit leads to an earlier instant, in every zone that saves less than a day. In
universal time the offset for a larger count is no later also where it is cut off. So a window that
ends now contains the windows of smaller counts that end now. -/
theorem resolve_nested {t : Moment} (hz : t.zone.SavesWithinDay) (unit : TimeUnit) {n m : Int}
    (h : n < m) :
    (∀ t₁ t₂, t.Reaches n unit t₁ → t.Reaches m unit t₂ →
      ∃ ms₁ ms₂, t₁.epochMillis = .ok ms₁ ∧ t₂.epochMillis = .ok ms₂ ∧ ms₂ < ms₁) ∧
    (t.zone = .utc → ∀ d₁ d₂ : Descriptor, d₁.unit = unit → d₂.unit = unit → d₁.count = n →
      d₂.count = m → ∃ offset₁ offset₂, (Options.offsetMoment d₁ t).1.epochMillis = .ok offset₁ ∧
        (Options.offsetMoment d₂ t).1.epochMillis = .ok offset₂ ∧ offset₂ ≤ offset₁) ∧
    (0 < n → ∀ (r : Resolver) (reading : Reading) (target₁ target₂ : Target)
      (d₁ d₂ : Descriptor) (ds₁ ds₂ : List Diagnostic), r.face.moment reading = .ok t →
      r.options.descriptor target₁ = .ok (d₁, ds₁) → d₁.toWindow = ⟨unit, n, .now⟩ →
      r.options.descriptor target₂ = .ok (d₂, ds₂) → d₂.toWindow = ⟨unit, m, .now⟩ →
      (t.zone = .utc ∨ (∀ e, ¬t.Refused e) ∧ t.Steps unit n m) →
      ∃ range₁ range₂, (r.resolve target₁ reading).result = .ok range₁ ∧
        (r.resolve target₂ reading).result = .ok range₂ ∧
          range₂.start ≤ range₁.start ∧ range₁.finish ≤ range₂.finish) := by
  refine ⟨fun t₁ t₂ h₁ h₂ => h₁.instants_lt h₂ hz h, ?_, ?_⟩
  · rintro hutc d₁ d₂ hunit₁ hunit₂ rfl rfl
    exact Options.offset_utc_antitone hutc (hunit₁.trans hunit₂.symm) (Int.le_of_lt h)
  · intro hpos r reading target₁ target₂ d₁ d₂ ds₁ ds₂ hface hd₁ hwindow₁ hd₂ hwindow₂ hsteps
    have hunit₁ := congrArg Window.unit hwindow₁
    have hunit₂ := congrArg Window.unit hwindow₂
    have hcount₁ := congrArg Window.count hwindow₁
    have hcount₂ := congrArg Window.count hwindow₂
    dsimp only at hunit₁ hunit₂ hcount₁ hcount₂
    obtain ⟨offset₁, offset₂, now, hnow, hoffset₁, hoffset₂, hcases⟩ :=
      Options.exists_nested_offsets hz (hunit₁.trans hunit₂.symm) (hcount₁ ▸ hpos)
        (by rwa [hcount₁, hcount₂]) (by rwa [hunit₁, hcount₁, hcount₂])
    refine ⟨_, _, resolve_now hd₁ hface (congrArg Window.reference hwindow₁) hnow hoffset₁,
      resolve_now hd₂ hface (congrArg Window.reference hwindow₂) hnow hoffset₂, ?_⟩
    rcases hcases with rfl | ⟨hle, hle'⟩
    · exact ⟨Int.le_refl _, Int.le_refl _⟩
    · rw [Options.range_now hle', Options.range_now (Int.le_trans hle hle')]
      exact ⟨hle, Int.le_refl now⟩

/-- From the last of March in daylight time, one month leads to the end of February and two to the
end of January, both in standard time. -/
theorem resolve_nested_months :
    let rules : YearlyRules := ⟨-18000, -14400, ⟨3, 2, 0, 7200⟩, ⟨11, 1, 0, 7200⟩⟩
    let r : Resolver := { face := .universal rules.zone }
    let reading : Reading := ⟨⟨1774972800000000, by decide, by decide⟩, false⟩
    ∃ range₁ range₂,
      (r.resolve (.descriptor (Window.descriptor ⟨.month, 1, .now⟩)) reading).result = .ok range₁ ∧
        (r.resolve (.descriptor (Window.descriptor ⟨.month, 2, .now⟩)) reading).result =
          .ok range₂ ∧ range₂.start ≤ range₁.start ∧ range₁.finish ≤ range₂.finish := by
  intro rules r reading
  let t : Moment := ⟨⟨1774958400000000, by decide, by decide⟩, false, rules.zone⟩
  let t₁ : Moment := ⟨⟨1772280000000000, by decide, by decide⟩, false, rules.zone⟩
  let t₂ : Moment := ⟨⟨1769860800000000, by decide, by decide⟩, false, rules.zone⟩
  have hface : r.face.moment reading = .ok t := by decide +kernel
  have hnow : t.epochMillis = .ok 1774972800000 := by decide +kernel
  have hms₁ : t₁.epochMillis = .ok 1772298000000 := by decide +kernel
  have hms₂ : t₂.epochMillis = .ok 1769878800000 := by decide +kernel
  have h₁ : t.Reaches 1 .month t₁ := ⟨by decide +kernel, Moment.exists_epochMillis_iff.1 ⟨_, hms₁⟩⟩
  have h₂ : t.Reaches 2 .month t₂ := ⟨by decide +kernel, Moment.exists_epochMillis_iff.1 ⟨_, hms₂⟩⟩
  have hz : t.zone.SavesWithinDay := YearlyRules.zone_savesWithinDay (by decide)
  obtain ⟨-, -, hwindows⟩ := resolve_nested hz .month (show (1 : Int) < 2 by decide)
  exact hwindows (by decide) r reading _ _ _ _ _ _ hface rfl rfl rfl rfl
    (.inr ⟨Moment.exists_epochMillis_iff.1 ⟨_, hnow⟩, .reached h₁ h₂⟩)

/-- In a zone that is a whole day ahead in summer, the moment half a year after one in winter has no
place in time. -/
theorem back_to_summer_not_ordered :
    let rules : YearlyRules := ⟨82800, 86400, ⟨3, 5, 0, 3600⟩, ⟨10, 5, 0, 7200⟩⟩
    let noon : Moment := ⟨⟨1768046400000000, by decide, by decide⟩, false, rules.zone⟩
    noon.zone.SavesWithinDay ∧ ∃ t₁ t₂, noon.back (-6) .month = .ok t₁ ∧
      noon.back 0 .month = .ok t₂ ∧
        ¬∃ ms₁ ms₂, t₁.epochMillis = .ok ms₁ ∧ t₂.epochMillis = .ok ms₂ ∧ ms₂ < ms₁ := by
  intro rules noon
  let summer : Moment := ⟨⟨1783684800000000, by decide, by decide⟩, false, rules.zone⟩
  have hrefused : summer.epochMillis = .error .dayApart := by decide +kernel
  refine ⟨YearlyRules.zone_savesWithinDay (by decide), summer, noon, by decide +kernel,
    by decide +kernel, ?_⟩
  rintro ⟨ms₁, ms₂, hms₁, -⟩
  cases hms₁.symm.trans hrefused

/-- Fourteen hours east, a day back is before the calendar of universal time and is not cut off; two
days back are, and lie after it. -/
theorem resolve_cut_off_not_nested :
    let r : Resolver := { face := .wall (.fixed 50400) }
    let reading : Reading := ⟨⟨-62135474400000000, by decide, by decide⟩, false⟩
    ∃ range₁ range₂,
      (r.resolve (.descriptor (Window.descriptor ⟨.day, 1, .now⟩)) reading).result = .ok range₁ ∧
        (r.resolve (.descriptor (Window.descriptor ⟨.day, 2, .now⟩)) reading).result =
          .ok range₂ ∧ range₁.start < range₂.start := by
  intro r reading
  have hface : r.face.moment reading = .ok ⟨reading.wall, false, .fixed 50400⟩ := rfl
  refine ⟨⟨-62135611200000, -62135524800000⟩, ⟨-62135596800000, -62135524800000⟩, ?_, ?_, by decide⟩
  · exact (resolve_eq_ok_iff rfl hface).2 (by decide +kernel)
  · exact (resolve_eq_ok_iff rfl hface).2 (by decide +kernel)

end Resolver

end TimeWindow
