import TimeWindow.Proofs.Calendar.Exact
import TimeWindow.Proofs.Number.Rounding
import TimeWindow.Calendar.Zone

/-!
Seasons of daylight time and what a wall shows around them. Where every season lasts at least as
long as daylight time is ahead, a wall time that begins a second is never shown after a later wall
time.
-/

namespace TimeWindow.Calendar

namespace Daylight

/-- A stretch of daylight time from its first second to the second after its last. -/
structure Season (r : Daylight) (first finish : Int) : Prop where
  first_lt : first < finish
  inside : ∀ s, first ≤ s → s < finish → r.isDaylight s = true
  before : r.isDaylight (first - 1) = false
  after : r.isDaylight finish = false

variable {r : Daylight}

theorem exists_finish (n : Nat) {s : Int} (hs : r.isDaylight s = true)
    (hout : r.isDaylight (s + n) = false) :
    ∃ finish, s < finish ∧ finish ≤ s + n ∧ (∀ x, s ≤ x → x < finish → r.isDaylight x = true) ∧
      r.isDaylight finish = false := by
  induction n generalizing s with
  | zero =>
    rw [Int.natCast_zero, Int.add_zero, hs] at hout
    cases hout
  | succ n ih =>
    cases hnext : r.isDaylight (s + 1) with
    | false =>
      refine ⟨s + 1, by omega, by omega, ?_, hnext⟩
      intro x hx hx'
      rwa [show x = s by omega]
    | true =>
      rw [Int.natCast_succ, Int.add_comm n 1, ← Int.add_assoc] at hout
      obtain ⟨finish, hlt, hle, hinside, hafter⟩ := ih hnext hout
      refine ⟨finish, by omega, by omega, ?_, hafter⟩
      intro x hx hx'
      rcases Int.lt_or_eq_of_le hx with h | rfl
      · exact hinside x h hx'
      · exact hs

theorem exists_first (n : Nat) {s : Int} (hs : r.isDaylight s = true)
    (hout : r.isDaylight (s - n) = false) :
    ∃ first, s - n < first ∧ first ≤ s ∧ (∀ x, first ≤ x → x ≤ s → r.isDaylight x = true) ∧
      r.isDaylight (first - 1) = false := by
  induction n generalizing s with
  | zero =>
    rw [Int.natCast_zero, Int.sub_zero, hs] at hout
    cases hout
  | succ n ih =>
    cases hprev : r.isDaylight (s - 1) with
    | false =>
      refine ⟨s, by omega, Int.le_refl s, ?_, hprev⟩
      intro x hx hx'
      rwa [show x = s by omega]
    | true =>
      rw [Int.natCast_succ, Int.add_comm n 1, ← Int.sub_sub] at hout
      obtain ⟨first, hlt, hle, hinside, hbefore⟩ := ih hprev hout
      refine ⟨first, by omega, by omega, ?_, hbefore⟩
      intro x hx hx'
      rcases Int.lt_or_eq_of_le hx' with h | rfl
      · exact hinside x hx (by omega)
      · exact hs

theorem exists_season {lo s hi : Int} (hlo : r.isDaylight lo = false) (hs : r.isDaylight s = true)
    (hhi : r.isDaylight hi = false) (hlt : lo ≤ s) (hlt' : s ≤ hi) :
    ∃ first finish, r.Season first finish ∧ lo < first ∧ finish ≤ hi := by
  have hup : s + ((hi - s).toNat : Int) = hi := by omega
  have hdown : s - ((s - lo).toNat : Int) = lo := by omega
  obtain ⟨finish, hfinish, hle, hafter, hout⟩ := exists_finish (hi - s).toNat hs (by rwa [hup])
  obtain ⟨first, hfirst, hle', hbefore, hout'⟩ := exists_first (s - lo).toNat hs (by rwa [hdown])
  refine ⟨first, finish, ⟨by omega, ?_, hout', hout⟩, by omega, by omega⟩
  intro x hx hx'
  rcases Int.lt_or_le x s with h | h
  · exact hbefore x hx (by omega)
  · exact hafter x h hx'

theorem listed_cons (c : Int) (changes : List Int) (s : Int) :
    (listed (c :: changes)).isDaylight s = ((listed changes).isDaylight s ^^ decide (c ≤ s)) := by
  simp only [isDaylight, List.countP_cons]
  by_cases hc : c ≤ s
  · rcases Nat.mod_two_eq_zero_or_one (changes.countP (· ≤ s)) with h | h <;>
      simp [hc, h, Nat.add_mod]
  · simp [hc]

/-- Whatever says when it is daylight time, some list of changes says the same from one second to a
later one. -/
theorem exists_listed (isDaylight : Int → Bool) (first : Int) (n : Nat) :
    ∃ changes : List Int, (∀ c ∈ changes, c ≤ first + n) ∧
      ∀ s, first ≤ s → s ≤ first + n → (listed changes).isDaylight s = isDaylight s := by
  induction n with
  | zero =>
    cases hfirst : isDaylight first with
    | false =>
      refine ⟨[], nofun, fun s hs hs' => ?_⟩
      rw [show s = first by omega, hfirst]
      rfl
    | true =>
      refine ⟨[first], by simp, fun s hs hs' => ?_⟩
      rw [show s = first by omega, hfirst, listed_cons]
      simp [Daylight.isDaylight]
  | succ n ih =>
    obtain ⟨changes, hchanges, hsame⟩ := ih
    let next := first + (n + 1 : Nat)
    -- The changes so far are all behind the next second, where they say what they said before it.
    have hkept : (listed changes).isDaylight next = isDaylight (first + n) := by
      rw [← hsame (first + n) (by omega) (Int.le_refl _)]
      have hcount : ∀ s, first + n ≤ s → changes.countP (· ≤ s) = changes.length := by
        intro s hs
        rw [List.countP_eq_length]
        intro c hc
        have := hchanges c hc
        simpa using this.trans hs
      simp only [Daylight.isDaylight, hcount next (by omega), hcount (first + n) (Int.le_refl _)]
    by_cases hnext : isDaylight next = isDaylight (first + n)
    · refine ⟨changes, fun c hc => (hchanges c hc).trans (by omega), fun s hs hs' => ?_⟩
      rcases Int.lt_or_eq_of_le hs' with hlt | rfl
      · exact hsame s hs (by omega)
      · exact hkept.trans hnext.symm
    · refine ⟨next :: changes, ?_, fun s hs hs' => ?_⟩
      · simp only [List.mem_cons, forall_eq_or_imp]
        exact ⟨Int.le_refl _, fun c hc => (hchanges c hc).trans (by omega)⟩
      · rw [listed_cons]
        rcases Int.lt_or_eq_of_le hs' with hlt | rfl
        · rw [hsame s hs (by omega), decide_eq_false (by omega), Bool.xor_false]
        · have hflip : isDaylight next = !isDaylight (first + n) := by
            cases hold : isDaylight (first + n) <;> simp_all
          change ((listed changes).isDaylight next ^^ decide (next ≤ next)) = isDaylight next
          rw [hkept, hflip, decide_eq_true (Int.le_refl _), Bool.xor_true]

end Daylight

namespace Seasons

/-- A wall whose daylight time is less than a day ahead, and lasts in each season at least as long
as it is ahead. -/
structure Lasting (z : Seasons) : Prop where
  ahead_lt : z.daylight - z.standard < 86400
  lasts : ∀ first finish, z.rules.Season first finish → z.daylight - z.standard ≤ finish - first

variable {z : Seasons}

theorem Lasting.isDaylight_sub (h : z.Lasting) {s p : Int} (hs : z.rules.isDaylight s = true)
    (hp : z.rules.isDaylight p = false) (hle : p - (z.daylight - z.standard) ≤ s) (hle' : s ≤ p) :
    z.rules.isDaylight (p - (z.daylight - z.standard)) = true := by
  rw [← Bool.not_eq_false]
  intro hout
  obtain ⟨first, finish, hseason, hfirst, hfinish⟩ := Daylight.exists_season hout hs hp hle hle'
  have := h.lasts first finish hseason
  omega

theorem size_eq : Number.pow2 (Number.Binary.precision - 1) = 4503599627370496 := by decide

theorem natAbs_micros_lt (w : Wall) :
    w.micros.natAbs < 1000000 * Number.pow2 (Number.Binary.precision - 1) := by
  have hfirst := w.first_le
  have hlast := w.le_last
  simp only [firstMicros, lastMicros] at *
  rw [size_eq]
  omega

theorem within_micros (w : Wall) : (Number.Binary.round w.micros 1000000).Within (10 ^ 12) := by
  have hfirst := w.first_le
  have hlast := w.le_last
  simp only [firstMicros, lastMicros] at *
  exact Number.Binary.within_round (by decide) (natAbs_micros_lt w) (by omega)

theorem natAbs_standard_lt (h : z.standard.natAbs < 10 ^ 12) :
    (-z.standard).natAbs < Number.pow2 (Number.Binary.precision - 1) := by
  rw [size_eq, Int.natAbs_neg]
  omega

theorem within_standard (h : z.standard.natAbs < 10 ^ 12) :
    (Number.Binary.ofInt (-z.standard)).Within (10 ^ 12) := by
  refine Number.Binary.within_round (by decide) ?_ ?_
  · rw [Nat.one_mul]
    exact natAbs_standard_lt h
  · rw [Int.natAbs_neg]
    omega

theorem le_secondOf (h : z.standard.natAbs < 10 ^ 12) {w : Wall} {n : Int}
    (hn : n * secondMicros ≤ w.micros) : n - z.standard ≤ z.secondOf w := by
  apply Number.Binary.le_floor_add (within_micros w) (within_standard h) (by decide)
  · apply Number.Binary.le_round (by decide) (natAbs_micros_lt w)
    exact hn
  · exact Int.le_of_eq (Number.Binary.num_ofInt (natAbs_standard_lt h)).symm

theorem secondOf_le (h : z.standard.natAbs < 10 ^ 12) {w : Wall} {n : Int}
    (hn : w.micros ≤ n * secondMicros) : z.secondOf w ≤ n - z.standard := by
  apply Number.Binary.floor_add_le (within_micros w) (within_standard h) (by decide)
  · apply Number.Binary.round_le (by decide) (natAbs_micros_lt w)
    exact hn
  · exact Int.le_of_eq (Number.Binary.num_ofInt (natAbs_standard_lt h))

theorem secondOf_eq (h : z.standard.natAbs < 10 ^ 12) {w : Wall} {n : Int}
    (hn : w.micros = n * secondMicros) : z.secondOf w = n - z.standard :=
  Int.le_antisymm (secondOf_le h (Int.le_of_eq hn)) (le_secondOf h (Int.le_of_eq hn.symm))

theorem secondOf_eq_of_dvd (h : z.standard.natAbs < 10 ^ 12) {w : Wall} (hw : 1000 ∣ w.micros) :
    z.secondOf w = w.micros / secondMicros - z.standard := by
  apply Int.le_antisymm
  · -- The last millisecond of a second leaves more than one of 1024 parts of it.
    have hsize : ((Number.pow2 10 : Nat) : Int) = 1024 := by decide
    have hsmall : w.micros.natAbs < 1000000 * Number.pow2 (Number.Binary.precision - 1 - 10) := by
      have hfirst := w.first_le
      have hlast := w.le_last
      have hbits : Number.pow2 (Number.Binary.precision - 1 - 10) = 4398046511104 := by decide
      simp only [firstMicros, lastMicros] at *
      omega
    have hparts : w.micros * Number.pow2 10 ≤
        (1024 * (w.micros / secondMicros) + 1023) * (1000000 : Nat) := by
      simp only [hsize, secondMicros]
      omega
    have hstandard : (Number.Binary.ofInt (-z.standard)).num * Number.pow2 10 ≤
        -z.standard * Number.pow2 10 * Number.pow2 (Number.Binary.ofInt (-z.standard)).places := by
      rw [Number.Binary.num_ofInt (natAbs_standard_lt h)]
      exact Int.le_of_eq (Int.mul_right_comm _ _ _)
    have hround := Number.Binary.round_le_parts (by decide) (by decide) hsmall hparts
    have hfloor := Number.Binary.floor_add_le_parts (by decide) (within_micros w)
      (within_standard h) (by decide) hround hstandard
    rw [hsize] at hfloor
    refine Int.le_trans hfloor ?_
    omega
  · exact le_secondOf h (Int.ediv_mul_le _ (by decide))

theorem isRepeated_eq_ok_iff {w : Wall} {b : Bool} (h : z.readsDaylight w = false) :
    z.isRepeated w = .ok b ↔
      ∃ v : Wall, v.micros = w.micros - z.saving ∧ z.readsDaylight v = b := by
  simp only [isRepeated, h, Bool.false_eq_true, if_false, Except.map_eq_ok_iff,
    Wall.move_eq_ok_iff]
  rfl

theorem showsDaylight_of_reads {w : Wall} (h : z.readsDaylight w = true) (second : Bool) :
    z.showsDaylight w second = .ok true := by
  rw [showsDaylight, if_pos h]

theorem showsDaylight_eq_ok_iff {w : Wall} {second b : Bool} (h : z.readsDaylight w = false) :
    z.showsDaylight w second = .ok b ↔
      ∃ v : Wall, v.micros = w.micros - z.saving ∧ (z.readsDaylight v && !second) = b := by
  have hne : ¬z.readsDaylight w = true := by
    rw [h]
    exact Bool.false_ne_true
  rw [showsDaylight, if_neg hne, Except.map_eq_ok_iff]
  constructor
  · rintro ⟨twice, htwice, rfl⟩
    obtain ⟨v, hv, rfl⟩ := (isRepeated_eq_ok_iff h).1 htwice
    exact ⟨v, hv, rfl⟩
  · rintro ⟨v, hv, rfl⟩
    exact ⟨_, (isRepeated_eq_ok_iff h).2 ⟨v, hv, rfl⟩, rfl⟩

def distance (z : Seasons) (daylight : Bool) : Int :=
  if daylight then z.daylight else z.standard

theorem distance_false (z : Seasons) : z.distance false = z.standard := rfl

theorem distance_true (z : Seasons) : z.distance true = z.daylight := rfl

theorem offset_eq_ok_iff {w : Wall} {second : Bool} {o : Int} :
    z.offset w second = .ok o ↔ ∃ b, z.showsDaylight w second = .ok b ∧ o = z.distance b ∧
      o.natAbs < 86400 := by
  rw [offset, Except.bind_eq_ok_iff]
  constructor
  · rintro ⟨b, hb, hwithin⟩
    obtain ⟨rfl, hlt⟩ := withinDay_eq_ok_iff.1 hwithin
    exact ⟨b, hb, rfl, hlt⟩
  · rintro ⟨b, hb, rfl, hlt⟩
    exact ⟨b, hb, withinDay_eq_ok_iff.2 ⟨rfl, hlt⟩⟩

theorem distance_bounds (z : Seasons) (b : Bool) :
    z.standard ≤ z.distance b ∧ z.distance b ≤ z.daylight := by
  have := z.standard_lt_daylight
  cases b
  · rw [distance_false]
    omega
  · rw [distance_true]
    omega

theorem ahead_eq_ok_iff {w : Wall} {second : Bool} {a : Int} :
    z.ahead w second = .ok a ↔ ∃ b, z.showsDaylight w second = .ok b ∧
      a = z.distance b - z.standard ∧ a.natAbs < 86400 := by
  have hahead : ∀ b : Bool, (if b = true then z.daylight - z.standard else 0) =
      z.distance b - z.standard := by
    intro b
    cases b
    · exact (Int.sub_self z.standard).symm
    · rfl
  rw [ahead, Except.bind_eq_ok_iff]
  refine exists_congr fun b => and_congr_right fun _ => ?_
  rw [withinDay_eq_ok_iff, hahead]
  constructor
  · rintro ⟨rfl, hlt⟩
    exact ⟨rfl, hlt⟩
  · rintro ⟨rfl, hlt⟩
    exact ⟨rfl, hlt⟩

theorem showsDaylight_second {w : Wall} {b : Bool} (h : z.showsDaylight w true = .ok b) :
    z.readsDaylight w = b := by
  cases hreads : z.readsDaylight w with
  | true =>
    rw [showsDaylight_of_reads hreads] at h
    cases h
    rfl
  | false =>
    obtain ⟨v, -, hv⟩ := (showsDaylight_eq_ok_iff hreads).1 h
    rwa [Bool.not_true, Bool.and_false] at hv

theorem ofUniversal_eq_ok {u w : Wall} {second : Bool} (h : z.ofUniversal u = .ok (w, second)) :
    ∃ (o a : Int) (v : Wall) (twice : Bool), z.offset u false = .ok o ∧
      v.micros = u.micros + z.standard * secondMicros ∧ z.ahead v true = .ok a ∧
        w.micros = v.micros + a * secondMicros ∧ z.isRepeated w = .ok twice ∧
          second = (twice && a = 0) := by
  obtain ⟨o, ho, h⟩ := Except.bind_eq_ok_iff.1 h
  obtain ⟨-, -, h⟩ := Except.bind_eq_ok_iff.1 h
  obtain ⟨v, hv, h⟩ := Except.bind_eq_ok_iff.1 h
  obtain ⟨a, ha, h⟩ := Except.bind_eq_ok_iff.1 h
  obtain ⟨w', hw, h⟩ := Except.bind_eq_ok_iff.1 h
  obtain ⟨twice, htwice, h⟩ := Except.bind_eq_ok_iff.1 h
  cases h
  exact ⟨o, a, v, twice, ho, Wall.move_eq_ok_iff.1 hv, ha, Wall.move_eq_ok_iff.1 hw, htwice, rfl⟩

theorem shows_of_ofUniversal {u w : Wall} {second : Bool} (h : z.ofUniversal u = .ok (w, second)) :
    ∃ b, z.showsDaylight w second = .ok b ∧ u.micros = w.micros - z.distance b * secondMicros ∧
      (b = true → second = false ∧
        ∃ v : Wall, v.micros = w.micros - z.saving ∧ z.readsDaylight v = true) := by
  obtain ⟨-, a, v, twice, -, hv, ha, hw, htwice, rfl⟩ := ofUniversal_eq_ok h
  obtain ⟨b, hb, rfl, -⟩ := ahead_eq_ok_iff.1 ha
  have hreads := showsDaylight_second hb
  have hdistance : u.micros = w.micros - z.distance b * secondMicros := by
    rw [hw, hv]
    simp only [secondMicros]
    omega
  cases b with
  | false =>
    have hsame : w = v := by
      apply Wall.ext_micros
      rw [hw, distance_false, Int.sub_self, Int.zero_mul, Int.add_zero]
    have hpass : (twice && decide (z.distance false - z.standard = 0)) = twice := by
      rw [distance_false, decide_eq_true (Int.sub_self z.standard), Bool.and_true]
    rw [hpass]
    rw [← hsame] at hreads
    obtain ⟨v', hv', hrepeated⟩ := (isRepeated_eq_ok_iff hreads).1 htwice
    refine ⟨false, (showsDaylight_eq_ok_iff hreads).2 ⟨v', hv', ?_⟩, hdistance, Bool.noConfusion⟩
    rw [hrepeated, Bool.and_not_self]
  | true =>
    have hlt := z.standard_lt_daylight
    have hahead : z.distance true - z.standard ≠ 0 := by
      rw [distance_true]
      omega
    have hpass : (twice && decide (z.distance true - z.standard = 0)) = false := by
      rw [decide_eq_false hahead, Bool.and_false]
    have hback : v.micros = w.micros - z.saving := by
      rw [hw]
      exact (Int.add_sub_cancel _ _).symm
    rw [hpass]
    refine ⟨true, ?_, hdistance, fun _ => ⟨rfl, v, hback, hreads⟩⟩
    cases hw' : z.readsDaylight w with
    | true => exact showsDaylight_of_reads hw' false
    | false => exact (showsDaylight_eq_ok_iff hw').2 ⟨v, hback, by rw [hreads]; rfl⟩

theorem Lasting.natAbs_standard_lt (h : z.Lasting) {w : Wall} {second : Bool} {o : Int}
    (ho : z.offset w second = .ok o) : z.standard.natAbs < 10 ^ 12 := by
  obtain ⟨b, -, rfl, hlt⟩ := offset_eq_ok_iff.1 ho
  have hbounds := z.distance_bounds b
  have := h.ahead_lt
  omega

theorem Lasting.readsDaylight_sub (h : z.Lasting) (hsmall : z.standard.natAbs < 10 ^ 12)
    {v v₀ w₀ : Wall} {n : Int} (hn : w₀.micros = n * secondMicros)
    (hv₀ : v₀.micros = w₀.micros - z.saving) (hstandard : z.readsDaylight w₀ = false)
    (hdaylight : z.readsDaylight v = true) (hle : v₀.micros ≤ v.micros)
    (hle' : v.micros ≤ w₀.micros) : z.readsDaylight v₀ = true := by
  have hn₀ : v₀.micros = (n - (z.daylight - z.standard)) * secondMicros := by
    rw [hv₀, hn, saving, Int.sub_mul n]
  have hlow := le_secondOf hsmall (hn₀ ▸ hle)
  have hhigh := secondOf_le hsmall (hn ▸ hle')
  have hshift : n - (z.daylight - z.standard) - z.standard =
      n - z.standard - (z.daylight - z.standard) := by
    omega
  rw [readsDaylight, secondOf_eq hsmall hn] at hstandard
  rw [readsDaylight, secondOf_eq hsmall hn₀, hshift]
  exact h.isDaylight_sub hdaylight hstandard (hshift ▸ hlow) hhigh

/-- Where seasons last, a wall time that begins a second stands for no later instant than a wall
time that is shown after it, unless a second pass takes the place of a first. -/
theorem Lasting.instant_le (h : z.Lasting) {u w w₀ : Wall} {second pass : Bool} {n o : Int}
    (hu : z.ofUniversal u = .ok (w, second)) (hle : w₀.micros ≤ w.micros)
    (hn : w₀.micros = n * secondMicros) (hpass : pass = true → second = true)
    (ho : z.offset w₀ pass = .ok o) : w₀.micros - o * secondMicros ≤ u.micros := by
  obtain ⟨b, -, hinstant, hlate⟩ := shows_of_ofUniversal hu
  obtain ⟨b₀, hb₀, rfl, -⟩ := offset_eq_ok_iff.1 ho
  rw [hinstant]
  by_cases hb : b = true ∧ b₀ = false
  · -- The later wall time shows daylight time and the earlier one standard time.
    obtain ⟨rfl, rfl⟩ := hb
    obtain ⟨rfl, v, hv, hdaylight⟩ := hlate rfl
    have hfirst : pass = false := by
      rw [← Bool.not_eq_true]
      exact fun hp => Bool.noConfusion (hpass hp)
    have hstandard : z.readsDaylight w₀ = false := by
      rw [← Bool.not_eq_true]
      intro hreads
      rw [showsDaylight_of_reads hreads] at hb₀
      cases hb₀
    obtain ⟨v₀, hv₀, hnot⟩ := (showsDaylight_eq_ok_iff hstandard).1 hb₀
    rw [hfirst, Bool.not_false, Bool.and_true] at hnot
    by_contra hlt
    rw [distance_true, distance_false] at hlt
    have hrepeated := h.readsDaylight_sub (h.natAbs_standard_lt ho) hn hv₀ hstandard hdaylight
      (by omega) (by simp only [saving, secondMicros] at *; omega)
    rw [hrepeated] at hnot
    cases hnot
  · have hdistance : z.distance b ≤ z.distance b₀ := by
      cases b
      · exact (z.distance_bounds b₀).1
      · cases b₀
        · exact absurd ⟨rfl, rfl⟩ hb
        · exact Int.le_refl _
    simp only [secondMicros]
    omega

theorem offset_first_pass {w : Wall} {second : Bool} {o o' : Int} (ho : z.offset w second = .ok o)
    (ho' : z.offset w false = .ok o') : o ≤ o' := by
  obtain ⟨b, hb, rfl, -⟩ := offset_eq_ok_iff.1 ho
  obtain ⟨b', hb', rfl, -⟩ := offset_eq_ok_iff.1 ho'
  cases hreads : z.readsDaylight w with
  | true =>
    rw [showsDaylight_of_reads hreads] at hb hb'
    cases hb
    cases hb'
    exact Int.le_refl _
  | false =>
    obtain ⟨v, hv, rfl⟩ := (showsDaylight_eq_ok_iff hreads).1 hb
    obtain ⟨v', hv', rfl⟩ := (showsDaylight_eq_ok_iff hreads).1 hb'
    rw [Wall.ext_micros (hv.trans hv'.symm)]
    cases z.readsDaylight v' with
    | false => exact Int.le_refl _
    | true => exact (z.distance_bounds _).2

end Seasons

end TimeWindow.Calendar
