import Mathlib
import TimeWindow.Session

/-!
Tasks at a running clock. Each comes to what it comes to when it is given the one reading that is
next, so no task looks at the clock a second time and what it does fits together.
-/

namespace TimeWindow

open Calendar (Moment)
open Json (Value)

theorem Outcome.before_of_result {α β : Type} (x : Except Failure α) (o : Outcome β) :
    ({ result := x } : Outcome α).before o = o := by
  simp only [before, List.nil_append, Nat.zero_add, String.empty_append]

namespace Clock

@[simp] theorem after_zero (c : Clock) : c.after 0 = c := rfl

theorem after_add (c : Clock) (m n : Nat) : c.after (m + n) = (c.after m).after n := by
  induction m generalizing c with
  | zero => rw [Nat.zero_add, after_zero]
  | succ m ih => rw [Nat.add_right_comm, after, ih, after]

end Clock

namespace Course

variable {α β : Type} {task : Course α} {rest : α → Course β} {clock : Clock} {o : Outcome α}

@[simp] theorem outcome_settled : (settled o).outcome clock = o := rfl

@[simp] theorem outcome_pure (a : α) :
    (pure a : Course α).outcome clock = { result := .ok a } := rfl

@[simp] theorem outcome_ofExcept (x : Except Failure α) :
    (Course.ofExcept x).outcome clock = { result := x } := rfl

theorem bind_of_ok {a : α} (htask : task.outcome clock = o) (hresult : o.result = .ok a) :
    (task >>= rest).outcome clock = o.before ((rest a).outcome (clock.after o.reads)) := by
  change (andThen task rest).outcome clock = _
  simp only [andThen, htask, hresult]

theorem bind_of_error {e : Failure} (htask : task.outcome clock = o)
    (hresult : o.result = .error e) :
    (task >>= rest).outcome clock = o.before { result := .error e } := by
  change (andThen task rest).outcome clock = _
  simp only [andThen, htask, hresult]

theorem bind_of_settled {a : α} (htask : task.outcome clock = { result := .ok a }) :
    (task >>= rest).outcome clock = (rest a).outcome clock := by
  rw [bind_of_ok htask rfl, Outcome.before_of_result, Clock.after_zero]

theorem bind_of_failed {e : Failure} (htask : task.outcome clock = { result := .error e }) :
    (task >>= rest).outcome clock = { result := .error e } := by
  rw [bind_of_error htask rfl, Outcome.before_of_result]

theorem bind_of_result {x : Except Failure α} {f : α → Except Failure β}
    (htask : task.outcome clock = { result := x })
    (hrest : ∀ a, (rest a).outcome clock = { result := f a }) :
    (task >>= rest).outcome clock = { result := x >>= f } := by
  cases x with
  | error e => exact bind_of_failed htask
  | ok a => exact (bind_of_settled htask).trans (hrest a)

@[simp] theorem outcome_pure_bind (a : α) :
    ((pure a : Course α) >>= rest).outcome clock = (rest a).outcome clock :=
  bind_of_settled rfl

theorem tell_bind (events : List Event) {rest : Unit → Course β} :
    (tell events >>= rest).outcome clock =
      ({ result := .ok (), events } : Outcome Unit).before ((rest ()).outcome clock) :=
  bind_of_ok rfl rfl

theorem say_bind (text : String) {rest : Unit → Course β} :
    (say text >>= rest).outcome clock = (Outcome.say text).before ((rest ()).outcome clock) :=
  bind_of_ok rfl rfl

theorem bind_pure (f : α → β) :
    (task >>= fun a => pure (f a)).outcome clock = (task.outcome clock).map f := by
  cases hresult : (task.outcome clock).result with
  | ok a =>
    rw [bind_of_ok rfl hresult]
    simp [Outcome.before, Outcome.map, hresult, Except.map]
  | error e =>
    rw [bind_of_error rfl hresult]
    simp [Outcome.before, Outcome.map, hresult, Except.map]

end Course

open Course (bind_of_ok bind_of_error bind_of_settled bind_of_failed bind_of_result tell_bind say_bind)

theorem Reference.ofValue_text (reference : Reference) :
    Reference.ofValue (.ofText reference.text) = .ok reference := by
  cases reference <;> cbv

namespace Resolver

variable (r : Resolver)

theorem now_eq (clock : Clock) :
    r.now.outcome clock =
      { result := (r.face.moment clock.next).mapError .calendar, reads := 1 } := by
  have hlook : Course.look.outcome clock = { result := .ok clock.next, reads := 1 } := rfl
  rw [now, bind_of_ok hlook rfl]
  rfl

theorem instant_eq (t : Moment) (clock : Clock) :
    (instant t).outcome clock = { result := t.epochMillis.mapError .calendar } := rfl

theorem referring_some (reference : Value) (t : Moment) (clock : Clock) :
    (r.referring reference (some t)).outcome clock = r.reference reference (some t) clock.next := by
  rw [referring, bind_of_settled rfl, Resolver.reference]
  dsimp only [Option.map_some, Option.getD_some]
  cases r.options.referenceMomentOf reference t with
  | error e => exact bind_of_failed rfl
  | ok found =>
    rw [bind_of_settled (a := found) rfl, tell_bind]
    simp [Outcome.before]

theorem referring_text (reference : Reference) (t : Moment) (clock : Clock) :
    (r.referring (.ofText reference.text) (some t)).outcome clock =
      { result := (r.options.referenceMoment reference t).mapError .calendar } := by
  rw [referring_some, Resolver.reference]
  dsimp only [Option.map_some, Option.getD_some]
  rw [Options.referenceMomentOf, Reference.ofValue_text]
  rfl

theorem referring_eq (reference : Value) (given : Option Moment) (clock : Clock) :
    (r.referring reference given).outcome clock = r.reference reference given clock.next := by
  cases given with
  | some t => exact r.referring_some reference t clock
  | none =>
    have hnow := r.now_eq clock
    cases hface : r.face.moment clock.next with
    | error e =>
      rw [hface] at hnow
      rw [referring, bind_of_error hnow rfl]
      simp [Resolver.reference, hface, Outcome.before]
    | ok t =>
      rw [hface] at hnow
      have hgiven := r.referring_some reference t (clock.after 1)
      rw [referring, bind_of_settled rfl] at hgiven
      rw [referring, bind_of_ok hnow rfl, hgiven]
      simp only [Resolver.reference, hface, Option.map_some, Option.map_none, Option.getD_some,
        Option.getD_none]
      cases r.options.referenceMomentOf reference t <;> simp [Outcome.before]

theorem resolvingAt_eq (d : Descriptor) (now : Moment) (clock : Clock) :
    (r.resolvingAt d now).outcome clock =
      { result := (r.options.resolveAt d now).1.mapError .calendar
        events := r.sink.report (r.options.resolveAt d now).2 } := by
  have hstart := r.referring_text d.reference now clock
  rw [resolvingAt, Options.resolveAt]
  cases hreference : r.options.referenceMoment d.reference now with
  | error e =>
    rw [hreference] at hstart
    exact bind_of_failed hstart
  | ok start =>
    rw [hreference] at hstart
    rw [bind_of_settled hstart]
    have hinstant := instant_eq start clock
    simp only [Except.bind]
    cases hms : start.epochMillis with
    | error e =>
      rw [hms] at hinstant
      exact bind_of_failed hinstant
    | ok reference =>
      rw [hms] at hinstant
      rw [bind_of_settled hinstant, tell_bind,
        bind_of_result (instant_eq _ clock) fun offset =>
          bind_of_result (instant_eq _ clock) fun finish => Course.outcome_pure _]
      simp only [Outcome.before, List.append_nil, Nat.add_zero, String.append_empty]
      cases (Options.offsetMoment d now).1.epochMillis <;> cases now.epochMillis <;> rfl

theorem resolving_eq (target : Target) (clock : Clock) :
    (r.resolving target).outcome clock = r.resolve target clock.next := by
  have hnow := r.now_eq clock
  rw [resolving, resolve]
  cases htarget : r.options.descriptor target with
  | error e =>
    refine bind_of_failed ?_
    rw [Course.outcome_settled, described, htarget]
  | ok found =>
    obtain ⟨d, ds⟩ := found
    have hdescribed : (Course.settled (r.described target)).outcome clock =
        { result := .ok d, events := r.sink.report ds } := by
      rw [Course.outcome_settled, described, htarget]
    rw [bind_of_ok hdescribed rfl]
    cases hface : r.face.moment clock.next with
    | error e =>
      rw [hface] at hnow
      rw [Clock.after_zero, bind_of_error hnow rfl]
      simp [Outcome.before, Except.mapError]
    | ok now =>
      rw [hface] at hnow
      rw [Clock.after_zero, bind_of_ok hnow rfl, resolvingAt_eq]
      simp [Outcome.before, Sink.report]

theorem ranging_eq (value : TimeValue) (clock : Clock) :
    (r.ranging value).outcome clock = r.rangeOf value clock.next := by
  cases value with
  | absolute start finish => rfl
  | relative key => rw [ranging, resolving_eq, rangeOf]

end Resolver

namespace Normalization

variable (setup : Setup)

theorem finishing_eq (stage : Stage) (clock : Clock) :
    (finishing setup stage).outcome clock = resolveStage setup stage clock.next := by
  rw [finishing, resolveStage]
  cases stage.descriptor with
  | none => rfl
  | some d =>
    have hrange := setup.resolver.resolving_eq (.descriptor d) clock
    have hprinted : (setup.resolver.resolve (.descriptor d) clock.next).printed = "" := rfl
    have hcalls : (setup.resolver.resolve (.descriptor d) clock.next).calls = [] := rfl
    dsimp only
    generalize setup.resolver.resolve (.descriptor d) clock.next = resolved at *
    cases hresult : resolved.result with
    | error e =>
      rw [bind_of_error hrange hresult]
      simp [Outcome.before, hprinted, hcalls, bind, Except.bind]
    | ok range =>
      rw [bind_of_ok hrange hresult]
      cases hvalue : range.toValue with
      | error e =>
        rw [bind_of_failed rfl]
        simp [Outcome.before, hprinted, hcalls, bind, Except.bind, hvalue, Except.mapError]
      | ok value =>
        rw [bind_of_settled (a := value) rfl]
        cases setup.debug with
        | true =>
          rw [if_pos rfl, say_bind]
          simp [Outcome.before, Outcome.say, hprinted, hcalls, bind, Except.bind, hvalue,
            Except.mapError, pure, Except.pure]
        | false =>
          simp [Outcome.before, hprinted, hcalls, bind, Except.bind, hvalue, Except.mapError, pure,
            Except.pure]

theorem completing_of_window {window : Option Window}
    (h : (Completion.run setup.environment setup.client).window = .ok window) (text : String)
    (first : Stage) (clock : Clock) :
    let stage := modelStage first window
    (completing setup text first).outcome clock =
      { result := .ok stage
        events := (Completion.run setup.environment setup.client).events
        printed := if setup.debug then report "complete_relative_time" stage.toValue ++
          reportChanges "complete_relative_time" (first.changes stage) else ""
        calls := Completion.calls setup.environment setup.client text } := by
  rw [completing]
  generalize Completion.run setup.environment setup.client = completion at h ⊢
  generalize Completion.calls setup.environment setup.client text = calls
  rw [bind_of_ok Course.outcome_settled h]
  cases setup.debug with
  | true => simp [say_bind, Outcome.before, Outcome.say]
  | false => simp [Outcome.before]

theorem completing_of_error {e : Failure}
    (h : (Completion.run setup.environment setup.client).window = .error e) (text : String)
    (first : Stage) (clock : Clock) :
    (completing setup text first).outcome clock =
      { result := .error e
        events := (Completion.run setup.environment setup.client).events
        calls := Completion.calls setup.environment setup.client text } := by
  rw [completing]
  generalize Completion.run setup.environment setup.client = completion at h ⊢
  generalize Completion.calls setup.environment setup.client text = calls
  rw [bind_of_error Course.outcome_settled h]
  simp [Outcome.before]

theorem resolveStage_calls (stage : Stage) (reading : Reading) :
    (resolveStage setup stage reading).calls = [] := by
  rw [resolveStage]
  cases stage.descriptor <;> rfl

theorem running_eq (text : String) (clock : Clock) :
    (running setup text).outcome clock = run setup text clock.next := by
  rw [running, run]
  cases Phrase.parse text with
  | error e => exact bind_of_failed rfl
  | ok found =>
    rw [bind_of_settled (a := found) rfl]
    cases found with
    | some f =>
      cases setup.debug with
      | true => simp [say_bind, finishing_eq, Outcome.before, Outcome.say]
      | false => simp [finishing_eq]
    | none =>
      cases hwindow : (Completion.run setup.environment setup.client).window with
      | error e =>
        have hcompleting := completing_of_error setup hwindow text (ruleStage text none) clock
        cases hdebug : setup.debug with
        | true =>
          simp [say_bind, bind_of_error hcompleting rfl, Outcome.before, Outcome.say, hwindow]
        | false => simp [bind_of_error hcompleting rfl, Outcome.before, hwindow]
      | ok window =>
        have hcompleting := completing_of_window setup hwindow text (ruleStage text none) clock
        cases hdebug : setup.debug with
        | true =>
          simp [say_bind, bind_of_ok hcompleting rfl, finishing_eq, Outcome.before, Outcome.say,
            hdebug, hwindow, resolveStage_calls, String.append_assoc]
        | false =>
          simp [bind_of_ok hcompleting rfl, finishing_eq, Outcome.before, hdebug,
            hwindow, resolveStage_calls]

end Normalization

theorem Session.performing_eq (s : Session) (task : Task) (clock : Clock) :
    (s.performing task).outcome clock = s.perform clock.next task := by
  cases task with
  | parse key => rfl
  | label target => rfl
  | resolve target => rw [performing, Course.bind_pure, Resolver.resolving_eq, perform]
  | reference reference now => rw [performing, Course.bind_pure, Resolver.referring_eq, perform]
  | timeValue stored =>
    rw [performing, rangingStored, perform, rangeOfStored]
    cases TimeValue.ofValue stored with
    | error e => exact bind_of_failed (e := e.failure) rfl
    | ok value => rw [bind_of_settled (a := value) rfl, Course.bind_pure, Resolver.ranging_eq]
  | normalize text client debug =>
    rw [performing, Course.bind_pure, Normalization.running_eq, perform]

end TimeWindow
