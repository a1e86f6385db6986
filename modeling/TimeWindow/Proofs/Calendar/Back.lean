import TimeWindow.Proofs.Calendar.Exact

/-!
Moments a number of units back: on the wall, or in universal time and from there back to the zone.
-/

namespace TimeWindow.Calendar.Moment

variable {t t' : Moment} {count : Int} {unit : TimeUnit}

theorem back_wall_eq_ok_iff (h : ¬(unit.isElapsed ∧ t.zone ≠ .floating)) :
    t.back count unit = .ok t' ↔
      ∃ v : Wall, v.micros = t.wall.exactBack count unit ∧ t' = ⟨v, false, t.zone⟩ := by
  rw [back, Except.bind_eq_ok_iff]
  simp only [if_neg h, onWall, Except.map_eq_ok_iff, ← Wall.carried_plus_eq_ok_iff,
    Except.bind_eq_ok_iff]
  constructor
  · rintro ⟨s, hs, v, hv, rfl⟩
    exact ⟨v, ⟨s, hs, hv⟩, rfl⟩
  · rintro ⟨v, ⟨s, hs, hv⟩, rfl⟩
    exact ⟨s, hs, v, hv, rfl⟩

theorem back_universal_eq_ok_iff (h : unit.isElapsed ∧ t.zone ≠ .floating) :
    t.back count unit = .ok t' ↔ ∃ u v : Wall, t.universal = .ok u ∧
      v.micros = u.exactBack count unit ∧ ofUniversal t.zone v = .ok t' := by
  rw [back, Except.bind_eq_ok_iff]
  simp only [if_pos h, inUniversal, ← Wall.carried_plus_eq_ok_iff, Except.bind_eq_ok_iff]
  constructor
  · rintro ⟨s, hs, u, hu, v, hv, ht⟩
    exact ⟨u, v, hu, ⟨s, hs, hv⟩, ht⟩
  · rintro ⟨u, v, hu, ⟨s, hs, hv⟩, ht⟩
    exact ⟨s, hs, u, hu, v, hv, ht⟩

theorem back_zone (h : t.back count unit = .ok t') : t'.zone = t.zone := by
  by_cases hunit : unit.isElapsed ∧ t.zone ≠ .floating
  · obtain ⟨u, v, -, -, ht⟩ := (back_universal_eq_ok_iff hunit).1 h
    obtain ⟨shown, -, rfl⟩ := Except.map_eq_ok_iff.1 ht
    rfl
  · obtain ⟨v, -, rfl⟩ := (back_wall_eq_ok_iff hunit).1 h
    rfl

theorem back_floating_second (hfloating : t.zone = .floating) (h : t.back count unit = .ok t') :
    t'.second = false := by
  obtain ⟨v, -, rfl⟩ := (back_wall_eq_ok_iff fun hunit => hunit.2 hfloating).1 h
  rfl

theorem universal_utc (w : Wall) (second : Bool) : universal ⟨w, second, .utc⟩ = .ok w := by
  refine Wall.move_eq_ok_iff.2 ?_
  change w.micros = w.micros + -0 * secondMicros
  omega

theorem epochMillis_utc (w : Wall) (second : Bool) :
    epochMillis ⟨w, second, .utc⟩ = .ok (w.micros / 1000) := by
  change Except.ok ((w.micros - 0 * secondMicros) / 1000) = _
  rw [Int.zero_mul, Int.sub_zero]

theorem ofUniversal_utc (u : Wall) : ofUniversal .utc u = .ok ⟨u, false, .utc⟩ := by
  have hmove : u.move (0 * secondMicros) = .ok u := Wall.move_eq_ok_iff.2 (by omega)
  change (u.move (0 * secondMicros) >>= fun w => .ok (w, false)).map _ = _
  rw [hmove]
  rfl

theorem back_utc_eq_ok_iff {w : Wall} {second : Bool} :
    back ⟨w, second, .utc⟩ count unit = .ok t' ↔
      ∃ v : Wall, v.micros = w.exactBack count unit ∧ t' = ⟨v, false, .utc⟩ := by
  by_cases h : unit.isElapsed ∧ Zone.utc ≠ .floating
  · rw [back_universal_eq_ok_iff h]
    constructor
    · rintro ⟨u, v, hu, hv, ht⟩
      cases (universal_utc w second).symm.trans hu
      cases (ofUniversal_utc v).symm.trans ht
      exact ⟨v, hv, rfl⟩
    · rintro ⟨v, hv, rfl⟩
      exact ⟨w, v, universal_utc w second, hv, ofUniversal_utc v⟩
  · exact back_wall_eq_ok_iff h

end TimeWindow.Calendar.Moment
