import TimeWindow.Proofs.Calendar.Refusal
import TimeWindow.Proofs.Key.Produced
import TimeWindow.Proofs.Resolve.Offset
import TimeWindow.Proofs.Resolve.Reference

/-!
How resolving fails. To read a key and to label it never fails. To resolve it fails for the week
that begins before the calendar, and otherwise for the first of the reference instant, the offset
instant and now that has no place in time; no count is too large.
-/

namespace TimeWindow

open Calendar (CalendarError Moment Wall YearlyRules dayMicros firstMicros)
open Calendar.Moment (FirstRefused Refused)
open Json (Value)

namespace Options

variable {o : Options} {d : Descriptor} {now start t : Moment} {e : CalendarError}

theorem resolveAt_fst (hstart : o.referenceMoment d.reference now = .ok start) :
    (o.resolveAt d now).1 = (do
      let reference ← start.epochMillis
      let offset ← (offsetMoment d now).1.epochMillis
      let finish ← now.epochMillis
      return o.range reference offset finish) := by
  have hinstant : (o.referenceMoment d.reference now).bind Moment.epochMillis = start.epochMillis := by
    rw [hstart]
    rfl
  rw [resolveAt, hinstant]
  cases start.epochMillis <;> rfl

/-- The moments that a range is made of, in the order in which their instants are asked for. -/
def momentsOf (d : Descriptor) (now start : Moment) : List Moment :=
  [start, (offsetMoment d now).1, now]

theorem resolveAt_eq_error_iff (hstart : o.referenceMoment d.reference now = .ok start) :
    (o.resolveAt d now).1 = .error e ↔ FirstRefused e (momentsOf d now start) := by
  rw [resolveAt_fst hstart, ← Moment.mapM_epochMillis_eq_error_iff, momentsOf]
  simp only [List.mapM_cons, List.mapM_nil, Except.bind_eq_error_iff, Except.pure_eq_error_iff,
    and_false, exists_false, or_false]

theorem resolveAt_of_beforeCalendar (h : o.BeforeCalendar d.reference now) :
    (o.resolveAt d now).1 = .error .beyondRange := by
  have herror : (o.referenceMoment d.reference now).bind Moment.epochMillis = .error .beyondRange := by
    rw [referenceMoment_eq_error_iff.2 ⟨rfl, h⟩]
    rfl
  rw [resolveAt, herror]

theorem zone_of_mem_momentsOf (hstart : o.referenceMoment d.reference now = .ok start)
    (ht : t ∈ momentsOf d now start) : t.zone = .utc ∨ t.zone = now.zone := by
  simp only [momentsOf, List.mem_cons, List.not_mem_nil, or_false] at ht
  rcases ht with rfl | rfl | rfl
  · exact .inr (referenceMoment_zone hstart)
  · exact (offsetMoment_cases d now).imp_right Moment.back_zone
  · exact .inr rfl

theorem second_of_mem_momentsOf (hstart : o.referenceMoment d.reference now = .ok start)
    (hzone : now.zone = .floating) (hsecond : now.second = false) (ht : t ∈ momentsOf d now start)
    (hfloating : t.zone = .floating) : t.second = false := by
  simp only [momentsOf, List.mem_cons, List.not_mem_nil, or_false] at ht
  rcases ht with rfl | rfl | rfl
  · by_cases hne : d.reference = .now
    · rw [hne] at hstart
      cases hstart
      exact hsecond
    · rw [((referenceMoment_eq_ok_iff hne).1 hstart).2.1, hsecond, Bool.false_and]
  · rcases offsetMoment_cases d now with hutc | hback
    · rw [hutc] at hfloating
      cases hfloating
    · exact Moment.back_floating_second hzone hback
  · exact hsecond

theorem exists_resolveAt_iff (hstart : o.referenceMoment d.reference now = .ok start) :
    (∃ range, (o.resolveAt d now).1 = .ok range) ↔ ∀ t ∈ momentsOf d now start, ∀ e, ¬t.Refused e := by
  rw [← Except.forall_ne_error_iff, ← Moment.forall_not_firstRefused_iff]
  exact forall_congr' fun e => not_congr (resolveAt_eq_error_iff hstart)

/-- On a floating clock a moment is refused within a day of the beginning of the calendar only; an
offset that is cut off does not float. -/
theorem forall_not_refused_iff_of_floating (hstart : o.referenceMoment d.reference now = .ok start)
    (hzone : now.zone = .floating) (hsecond : now.second = false) :
    (∀ t ∈ momentsOf d now start, ∀ e, ¬t.Refused e) ↔ ∀ t ∈ momentsOf d now start,
      t.zone = .floating → firstMicros + dayMicros ≤ t.wall.micros := by
  refine forall₂_congr fun t ht => ?_
  rcases zone_of_mem_momentsOf hstart ht with hutc | hsame
  · rw [hutc]
    exact iff_of_true (fun e => Moment.not_refused_of_fixed hutc (by decide)) nofun
  · have hfloating := hsame.trans hzone
    have hfirst := second_of_mem_momentsOf hstart hzone hsecond ht hfloating
    rw [Moment.forall_not_refused_floating_iff hfloating hfirst]
    exact ⟨fun h _ => h, fun h => h hfloating⟩

theorem exists_resolveAt_of_fixed {distance : Int} (hnot : ¬o.BeforeCalendar d.reference now)
    (hzone : now.zone = .fixed distance) (hdistance : distance.natAbs < 86400) :
    ∃ range, (o.resolveAt d now).1 = .ok range := by
  obtain ⟨start, hstart⟩ := exists_referenceMoment hnot
  refine (exists_resolveAt_iff hstart).2 fun t ht e => ?_
  rcases zone_of_mem_momentsOf hstart ht with hutc | hsame
  · exact Moment.not_refused_of_fixed hutc (by decide)
  · exact Moment.not_refused_of_fixed (hsame.trans hzone) hdistance

end Options

namespace Resolver

variable {r : Resolver} {reading : Reading} {now : Moment}

theorem fails_of_unwritable {key : Value} (h : key.writable = false) :
    (∀ s, key ≠ .string s) ∧ (r.parse key).result = .error (.count .unwritable) ∧
      (r.label (.key key)).result = .error (.count .unwritable) ∧
      (r.resolve (.key key) reading).result = .error (.count .unwritable) := by
  have htarget : (Target.key key).writable = false := h
  have hdescribed : r.described (.key key) = { result := .error (.count .unwritable) } := by
    rw [described, r.options.descriptor_of_unwritable htarget]
  refine ⟨?_, ?_, ?_, ?_⟩
  · rintro s rfl
    cases h
  · rw [parse, hdescribed]
  · rw [label, hdescribed]
    rfl
  · rw [resolve_of_unwritable htarget]

/-- Each way in which resolving a key fails, for every key, fallback and clock reading. Only a key
that cannot be shown stands for nothing at all, and no text is one. -/
theorem resolve_key_failure (key : Value) (hfallback : r.options.fallback.Produced)
    (hnow : r.face.moment reading = .ok now) :
    (key.writable = true → ∃ d : Descriptor,
      let before := r.options.BeforeCalendar d.reference now
      let result := (r.resolve (.key key) reading).result
      ((r.parse key).result = .ok d ∧ (r.label (.key key)).result = .ok d.label ∧
        Text.isWritable d.count) ∧
      (before → result = .error (.calendar .beyondRange)) ∧
      (¬before → ∃ start, r.options.referenceMoment d.reference now = .ok start ∧
        (∀ f, result = .error f ↔
          ∃ e, f = .calendar e ∧ FirstRefused e (Options.momentsOf d now start)) ∧
        ((∃ range, result = .ok range) ↔
          ∀ t ∈ Options.momentsOf d now start, ∀ e, ¬t.Refused e) ∧
        (now.zone = .floating → now.second = false →
          ((∃ range, result = .ok range) ↔ ∀ t ∈ Options.momentsOf d now start,
            t.zone = .floating → firstMicros + dayMicros ≤ t.wall.micros))) ∧
      (∀ distance, now.zone = .fixed distance → distance.natAbs < 86400 →
        ((∃ range, result = .ok range) ↔ ¬before))) ∧
    (key.writable = false → (∀ s, key ≠ .string s) ∧
      (r.parse key).result = .error (.count .unwritable) ∧
      (r.label (.key key)).result = .error (.count .unwritable) ∧
      (r.resolve (.key key) reading).result = .error (.count .unwritable)) := by
  refine ⟨fun hkey => ?_, fails_of_unwritable⟩
  obtain ⟨d, ds, hd⟩ : ∃ d ds, r.options.descriptor (.key key) = .ok (d, ds) :=
    r.options.exists_descriptor hkey
  have hparsed : (r.parse key).result = .ok d := by
    rw [parse, described, hd]
  have hlabel : (r.label (.key key)).result = .ok d.label := by
    rw [label, described, hd]
    rfl
  have hbefore : r.options.BeforeCalendar d.reference now →
      (r.resolve (.key key) reading).result = .error (.calendar .beyondRange) := fun h =>
    (resolve_eq_error_iff hd hnow).2 ⟨_, Options.resolveAt_of_beforeCalendar h, rfl⟩
  have herror : ∀ {start}, r.options.referenceMoment d.reference now = .ok start → ∀ f,
      (r.resolve (.key key) reading).result = .error f ↔
        ∃ e, f = .calendar e ∧ FirstRefused e (Options.momentsOf d now start) := by
    intro start hstart f
    refine (resolve_eq_error_iff hd hnow).trans (exists_congr fun e => ?_)
    rw [and_comm]
    exact and_congr_right fun _ => Options.resolveAt_eq_error_iff hstart
  have hok : ∀ {start}, r.options.referenceMoment d.reference now = .ok start →
      ((∃ range, (r.resolve (.key key) reading).result = .ok range) ↔
        ∀ t ∈ Options.momentsOf d now start, ∀ e, ¬t.Refused e) := by
    intro start hstart
    rw [← Options.exists_resolveAt_iff hstart]
    exact exists_congr fun range => resolve_eq_ok_iff hd hnow
  refine ⟨d, ⟨hparsed, hlabel, ?_⟩, hbefore, fun hnot => ?_, fun distance hzone hdistance => ?_⟩
  · have produced : d.Produced := .parsed hfallback hparsed
    exact Key.isWritable_of_decode produced.faithful
  · obtain ⟨start, hstart⟩ := Options.exists_referenceMoment hnot
    refine ⟨start, hstart, herror hstart, hok hstart, fun hzone hsecond => ?_⟩
    rw [hok hstart, Options.forall_not_refused_iff_of_floating hstart hzone hsecond]
  · constructor
    · rintro ⟨range, hrange⟩ h
      rw [hbefore h] at hrange
      cases hrange
    · intro hnot
      obtain ⟨range, hrange⟩ := Options.exists_resolveAt_of_fixed hnot hzone hdistance
      exact ⟨range, (resolve_eq_ok_iff hd hnow).2 hrange⟩

/-- The Sunday that begins the week of the sixth day lies before the calendar, that of the seventh
day is the day itself. The count does not matter. -/
theorem resolve_key_failure_first_week :
    let r : Resolver := {}
    let w : Window := ⟨.year, 10 ^ 4000, .thisWeek⟩
    let sixth : Wall := ⟨-62135121600000000, by decide, by decide⟩
    let seventh : Wall := ⟨-62135035200000000, by decide, by decide⟩
    (r.resolve (.key (.string w.key)) ⟨sixth, false⟩).result = .error (.calendar .beyondRange) ∧
      ∃ range, (r.resolve (.key (.string w.key)) ⟨seventh, false⟩).result = .ok range := by
  intro r w sixth seventh
  have hfallback : r.options.fallback.Produced := .preset List.mem_cons_self
  have hwritable : Text.isWritable w.count := Text.isWritable_iff.2 (by decide +kernel)
  have hparse : (r.parse (.string w.key)).result = .ok w.descriptor :=
    (Descriptor.faithful_of_window hwritable).parse_key r
  have hsixth : r.face.moment ⟨sixth, false⟩ = .ok ⟨sixth, false, .utc⟩ :=
    Moment.ofUniversal_utc sixth
  have hseventh : r.face.moment ⟨seventh, false⟩ = .ok ⟨seventh, false, .utc⟩ :=
    Moment.ofUniversal_utc seventh
  obtain ⟨d, ⟨hd, -⟩, hbefore, -⟩ :=
    (resolve_key_failure (.string w.key) hfallback hsixth).1 rfl
  obtain ⟨d', ⟨hd', -⟩, -, -, hfixed⟩ :=
    (resolve_key_failure (.string w.key) hfallback hseventh).1 rfl
  cases hparse.symm.trans hd
  cases hparse.symm.trans hd'
  constructor
  · exact hbefore ⟨rfl, rfl, by decide, by decide, by decide⟩
  · refine (hfixed 0 rfl (by decide)).2 fun h => ?_
    exact absurd h.day_le (by decide)

/-- In the first hours of the calendar a zone with daylight time has no place for the start of the
day, which is looked up an hour before it as well. -/
theorem resolve_key_fails_on_first_day :
    let rules : YearlyRules := ⟨-18000, -14400, ⟨3, 2, 0, 7200⟩, ⟨11, 1, 0, 7200⟩⟩
    let r : Resolver := { face := .wall rules.zone }
    let key : Value := .ofText "unit=(Day)&count=(0)&referenceTime=(today)"
    let noon : Wall := ⟨-62135553600000000, by decide, by decide⟩
    ∃ d : Descriptor, (r.parse key).result = .ok d ∧
      ¬r.options.BeforeCalendar d.reference ⟨noon, false, rules.zone⟩ ∧
      (r.resolve (.key key) ⟨noon, false⟩).result = .error (.calendar .beyondRange) := by
  intro rules r key noon
  let w : Window := ⟨.day, 0, .today⟩
  let d : Descriptor := ⟨w, "unit=(Day)&count=(0)&referenceTime=(today)"⟩
  have hread : Key.read d.key = .ok w := by cbv
  have hd : r.options.descriptor (.key key) = .ok (d, []) := r.options.descriptor_of_read hread
  have hnow : r.face.moment ⟨noon, false⟩ = .ok ⟨noon, false, rules.zone⟩ := rfl
  have hat : (r.options.resolveAt d ⟨noon, false, rules.zone⟩).1 = .error .beyondRange := by
    decide +kernel
  refine ⟨d, by rw [parse, described, hd], fun h => absurd h.this_week (by decide), ?_⟩
  exact (resolve_eq_error_iff hd hnow).2 ⟨_, hat, rfl⟩

end Resolver

end TimeWindow
