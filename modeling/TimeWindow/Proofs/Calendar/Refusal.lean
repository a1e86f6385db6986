import TimeWindow.Proofs.Calendar.Season

/-!
Moments without a place in time, and why they have none. A floating moment is looked up next to its
neighbour of the day before or after; in a zone the distance to universal time must be shorter than
a day, and a time read as standard time must leave room for the time by which daylight time is
ahead.
-/

namespace TimeWindow.Calendar

theorem withinDay_eq_ok {distance : Int} (h : distance.natAbs < 86400) :
    withinDay distance = .ok distance :=
  withinDay_eq_ok_iff.2 ⟨rfl, h⟩

theorem withinDay_eq_error_iff {distance : Int} {e : CalendarError} :
    withinDay distance = .error e ↔ 86400 ≤ distance.natAbs ∧ e = .dayApart := by
  unfold withinDay
  split
  · simp only [reduceCtorEq, false_iff]
    omega
  · simp only [Except.error.injEq]
    constructor
    · rintro rfl
      exact ⟨by omega, rfl⟩
    · rintro ⟨-, rfl⟩
      rfl

namespace Seasons

variable {z : Seasons} {w : Wall} {second : Bool} {e : CalendarError}

theorem saving_pos (z : Seasons) : 0 < z.saving := by
  have := z.standard_lt_daylight
  simp only [saving, secondMicros]
  omega

theorem isRepeated_eq_error_iff (h : z.readsDaylight w = false) :
    z.isRepeated w = .error e ↔ e = .beyondRange ∧ w.micros < firstMicros + z.saving := by
  have hlast := w.le_last
  have hsaving := z.saving_pos
  rw [isRepeated, if_neg (by simp [h]), Except.map_eq_error_iff, Wall.move_eq_error_iff]
  refine and_congr_right fun _ => ?_
  omega

theorem showsDaylight_eq_error_iff : z.showsDaylight w second = .error e ↔
    z.readsDaylight w = false ∧ w.micros < firstMicros + z.saving ∧ e = .beyondRange := by
  cases h : z.readsDaylight w with
  | true => simp [showsDaylight_of_reads h]
  | false =>
    rw [showsDaylight, if_neg (by simp [h]), Except.map_eq_error_iff, isRepeated_eq_error_iff h]
    simp [and_comm]

theorem offset_eq_error_iff : z.offset w second = .error e ↔
    z.showsDaylight w second = .error e ∨
      ∃ b, z.showsDaylight w second = .ok b ∧ 86400 ≤ (z.distance b).natAbs ∧ e = .dayApart := by
  rw [offset, Except.bind_eq_error_iff]
  refine or_congr_right (exists_congr fun b => and_congr_right fun _ => ?_)
  exact withinDay_eq_error_iff

end Seasons

theorem Zone.offset_ne_none {zone : Zone} (h : zone ≠ .floating) (w : Wall) (second : Bool) :
    zone.offset w second ≠ .ok none := by
  intro hnone
  cases zone with
  | floating => exact h rfl
  | fixed _ | seasonal _ =>
    obtain ⟨o, -, hshown⟩ := Except.map_eq_ok_iff.1 hnone
    cases hshown

namespace Moment

inductive Refused : Moment → CalendarError → Prop
  | before {w : Wall} :
      w.micros < firstMicros + dayMicros → Refused ⟨w, false, .floating⟩ (.yearOutOfRange 0)
  | after {w : Wall} :
      lastMicros - dayMicros < w.micros → Refused ⟨w, true, .floating⟩ (.yearOutOfRange 10000)
  | fixedApart {w : Wall} {second : Bool} {distance : Int} :
      86400 ≤ distance.natAbs → Refused ⟨w, second, .fixed distance⟩ .dayApart
  | early {w : Wall} {second : Bool} {z : Seasons} : z.readsDaylight w = false →
      w.micros < firstMicros + z.saving → Refused ⟨w, second, .seasonal z⟩ .beyondRange
  | seasonApart {w : Wall} {second daylight : Bool} {z : Seasons} :
      z.showsDaylight w second = .ok daylight → 86400 ≤ (z.distance daylight).natAbs →
        Refused ⟨w, second, .seasonal z⟩ .dayApart

variable {t : Moment} {w : Wall} {second : Bool} {e : CalendarError}

theorem floatingNeighbour_eq_error_iff : floatingNeighbour w second = .error e ↔
    if second then lastMicros - dayMicros < w.micros ∧ e = .yearOutOfRange 10000
    else w.micros < firstMicros + dayMicros ∧ e = .yearOutOfRange 0 := by
  have hfirst := w.first_le
  have hlast := w.le_last
  cases second with
  | true =>
    rw [floatingNeighbour, if_pos rfl, if_pos rfl]
    cases hnext : Wall.ofMicros? (w.micros + dayMicros) with
    | none =>
      have hout : lastMicros - dayMicros < w.micros := by
        have := Wall.ofMicros?_eq_none_iff.1 hnext
        simp only [dayMicros] at *
        omega
      simp [hout, eq_comm]
    | some v =>
      have hin : ¬lastMicros - dayMicros < w.micros := by
        have := Wall.ofMicros?_eq_some_iff.1 hnext
        have := v.le_last
        omega
      simp [hin]
  | false =>
    rw [floatingNeighbour, if_neg Bool.false_ne_true, if_neg Bool.false_ne_true]
    cases hprevious : Wall.ofMicros? (w.micros - dayMicros) with
    | none =>
      have hout : w.micros < firstMicros + dayMicros := by
        have := Wall.ofMicros?_eq_none_iff.1 hprevious
        simp only [dayMicros] at *
        omega
      simp [hout, eq_comm]
    | some v =>
      have hin : ¬w.micros < firstMicros + dayMicros := by
        have := Wall.ofMicros?_eq_some_iff.1 hprevious
        have := v.first_le
        omega
      simp [hin]

theorem epochMillis_floating_eq_error_iff :
    epochMillis ⟨w, second, .floating⟩ = .error e ↔ floatingNeighbour w second = .error e := by
  change (floatingNeighbour w second >>= fun _ => .ok (floatingMillis w)) = _ ↔ _
  simp [Except.bind_eq_error_iff]

theorem epochMillis_eq_error_iff_offset (h : t.zone ≠ .floating) :
    t.epochMillis = .error e ↔ t.zone.offset t.wall t.second = .error e := by
  rw [epochMillis, Except.bind_eq_error_iff]
  refine ⟨fun herror => ?_, .inl⟩
  rcases herror with herror | ⟨shown, hshown, herror⟩
  · exact herror
  · cases shown with
    | none => exact absurd hshown (Zone.offset_ne_none h _ _)
    | some o => cases herror

theorem epochMillis_eq_error_iff : t.epochMillis = .error e ↔ t.Refused e := by
  obtain ⟨w, second, zone⟩ := t
  cases zone with
  | floating =>
    rw [epochMillis_floating_eq_error_iff, floatingNeighbour_eq_error_iff]
    cases second with
    | false =>
      constructor
      · rintro ⟨h, rfl⟩
        exact .before h
      · rintro (_ | _)
        exact ⟨‹_›, rfl⟩
    | true =>
      constructor
      · rintro ⟨h, rfl⟩
        exact .after h
      · rintro (_ | _)
        exact ⟨‹_›, rfl⟩
  | fixed distance =>
    rw [epochMillis_eq_error_iff_offset (by simp)]
    change (withinDay distance).map some = _ ↔ _
    rw [Except.map_eq_error_iff, withinDay_eq_error_iff]
    constructor
    · rintro ⟨h, rfl⟩
      exact .fixedApart h
    · rintro (_ | _)
      exact ⟨‹_›, rfl⟩
  | seasonal z =>
    rw [epochMillis_eq_error_iff_offset (by simp)]
    change (z.offset w second).map some = _ ↔ _
    rw [Except.map_eq_error_iff, Seasons.offset_eq_error_iff, Seasons.showsDaylight_eq_error_iff]
    constructor
    · rintro (⟨hreads, h, rfl⟩ | ⟨b, hb, h, rfl⟩)
      · exact .early hreads h
      · exact .seasonApart hb h
    · rintro (_ | _ | _ | _ | _)
      · exact .inl ⟨‹_›, ‹_›, rfl⟩
      · exact .inr ⟨_, ‹_›, ‹_›, rfl⟩

theorem exists_epochMillis_iff : (∃ ms, t.epochMillis = .ok ms) ↔ ∀ e, ¬t.Refused e := by
  rw [← Except.forall_ne_error_iff]
  exact forall_congr' fun e => not_congr epochMillis_eq_error_iff

theorem not_refused_of_fixed {distance : Int} (hzone : t.zone = .fixed distance)
    (h : distance.natAbs < 86400) : ¬t.Refused e := by
  rintro (_ | _ | _ | _ | _)
  all_goals cases hzone
  omega

theorem forall_not_refused_floating_iff (hzone : t.zone = .floating) (hfirst : t.second = false) :
    (∀ e, ¬t.Refused e) ↔ firstMicros + dayMicros ≤ t.wall.micros := by
  obtain ⟨w, second, zone⟩ := t
  cases hzone
  cases hfirst
  constructor
  · intro h
    exact Int.not_lt.1 fun hlt => h _ (.before hlt)
  · rintro h e (hlt | _)
    dsimp only at h
    omega

/-- The first moment of a row that has no place in time has none for this reason. -/
inductive FirstRefused (e : CalendarError) : List Moment → Prop
  | here {t : Moment} {rest : List Moment} : t.Refused e → FirstRefused e (t :: rest)
  | later {t : Moment} {rest : List Moment} :
      (∀ e', ¬t.Refused e') → FirstRefused e rest → FirstRefused e (t :: rest)

theorem mapM_epochMillis_eq_error_iff {row : List Moment} :
    row.mapM epochMillis = .error e ↔ FirstRefused e row := by
  induction row with
  | nil =>
    refine ⟨fun h => ?_, fun h => ?_⟩
    · cases h
    · cases h
  | cons t rest ih =>
    rw [List.mapM_cons, Except.bind_eq_error_iff, epochMillis_eq_error_iff]
    constructor
    · rintro (h | ⟨ms, hms, h⟩)
      · exact .here h
      · refine .later (exists_epochMillis_iff.1 ⟨ms, hms⟩) (ih.1 ?_)
        rcases Except.bind_eq_error_iff.1 h with h | ⟨all, -, h⟩
        · exact h
        · cases h
    · rintro (h | ⟨hnone, h⟩)
      · exact .inl h
      · obtain ⟨ms, hms⟩ := exists_epochMillis_iff.2 hnone
        exact .inr ⟨ms, hms, Except.bind_eq_error_iff.2 (.inl (ih.2 h))⟩

theorem forall_not_firstRefused_iff {row : List Moment} :
    (∀ e, ¬FirstRefused e row) ↔ ∀ t ∈ row, ∀ e, ¬t.Refused e := by
  induction row with
  | nil =>
    refine iff_of_true (fun e h => ?_) (List.forall_mem_nil _)
    cases h
  | cons t rest ih =>
    rw [List.forall_mem_cons, ← ih]
    constructor
    · intro h
      have hnone : ∀ e, ¬t.Refused e := fun e he => h e (.here he)
      exact ⟨hnone, fun e he => h e (.later hnone he)⟩
    · rintro ⟨hnone, hrest⟩ e (he | ⟨-, he⟩)
      · exact hnone e he
      · exact hrest e he

end Moment

end TimeWindow.Calendar
