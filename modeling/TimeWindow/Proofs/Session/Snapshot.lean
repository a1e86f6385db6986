import TimeWindow.Proofs.Completion.Asking
import TimeWindow.Proofs.Resolve.Offset
import TimeWindow.Proofs.Session.Running

/-!
Sessions at a running clock. A step does in a session what it does alone with a clock that stands
still at the next unread reading. It takes that reading exactly if it resolves something or asks for
a reference and gives no moment; what it answers, or how it fails, changes nothing for the steps to
come.
-/

namespace TimeWindow

open Calendar (Moment)

inductive Target.Unreadable : Target → Prop
  | key {key : Json.Value} (h : ∀ w, Key.decode key ≠ .ok w) : Unreadable (.key key)

/-- The offset of a window is looked for, as its reference has an instant, and is outside the
calendar. -/
def Options.Clamps (o : Options) (d : Descriptor) (now : Moment) : Prop :=
  (∃ reference, (o.referenceMoment d.reference now).bind Moment.epochMillis = .ok reference) ∧
    ∀ t, now.back d.count d.unit ≠ .ok t

def Resolver.Clamps (r : Resolver) (target : Target) (reading : Reading) : Prop :=
  ∃ d ds now, r.options.descriptor target = .ok (d, ds) ∧ r.face.moment reading = .ok now ∧
    r.options.Clamps d now

namespace Options

variable (o : Options)

theorem descriptor_diagnostics {target : Target} {d : Descriptor} {ds : List Diagnostic}
    (h : o.descriptor target = .ok (d, ds)) :
    target.Unreadable ∧ ds.map Diagnostic.code =
        ["relative_time.decode_failed", "relative_time.fallback_used"] ∨
      ¬target.Unreadable ∧ ds = [] := by
  cases target with
  | descriptor d =>
    cases h
    refine .inr ⟨fun h => ?_, rfl⟩
    cases h
  | key key =>
    rw [descriptor, parse] at h
    split at h
    · rename_i w hdecode
      cases h
      refine .inr ⟨?_, rfl⟩
      rintro ⟨hnot⟩
      exact hnot w hdecode
    · rename_i d hdecode
      cases h
      refine .inl ⟨.key fun w hw => ?_, ?_⟩
      · cases hdecode.symm.trans hw
      · simp only [List.map_cons, List.map_nil, (Key.decode_reported hdecode).1]
        rfl
    · cases h

theorem resolveAt_diagnostics (d : Descriptor) (now : Moment) :
    o.Clamps d now ∧ (o.resolveAt d now).2.map Diagnostic.code =
        ["relative_time.offset_out_of_range"] ∨
      ¬o.Clamps d now ∧ (o.resolveAt d now).2 = [] := by
  rw [resolveAt]
  cases hreference : (o.referenceMoment d.reference now).bind Moment.epochMillis with
  | error e =>
    refine .inr ⟨fun h => ?_, rfl⟩
    obtain ⟨⟨reference, h⟩, -⟩ := h
    cases hreference.symm.trans h
  | ok reference =>
    by_cases hback : ∃ t, now.back d.count d.unit = .ok t
    · obtain ⟨t, ht⟩ := hback
      refine .inr ⟨fun h => h.2 t ht, ?_⟩
      rw [offsetMoment_of_ok ht]
    · have hnone := not_exists.1 hback
      refine .inl ⟨⟨⟨reference, hreference⟩, hnone⟩, ?_⟩
      rw [offsetMoment_of_forall_ne hnone]
      dsimp only
      split <;> rfl

end Options

namespace Resolver

variable (r : Resolver)

theorem resolve_diagnostics {target : Target} (h : target.writable = true) (reading : Reading) :
    ∃ onKey onOffset : List Diagnostic,
      (r.resolve target reading).events = r.sink.report (onKey ++ onOffset) ∧
      (target.Unreadable ∧ onKey.map Diagnostic.code =
          ["relative_time.decode_failed", "relative_time.fallback_used"] ∨
        ¬target.Unreadable ∧ onKey = []) ∧
      (r.Clamps target reading ∧ onOffset.map Diagnostic.code =
          ["relative_time.offset_out_of_range"] ∨
        ¬r.Clamps target reading ∧ onOffset = []) := by
  obtain ⟨d, ds, hd⟩ := r.options.exists_descriptor h
  have hkey := r.options.descriptor_diagnostics hd
  rw [resolve, hd]
  cases hface : r.face.moment reading with
  | error e =>
    refine ⟨ds, [], rfl, hkey, .inr ⟨fun h => ?_, rfl⟩⟩
    obtain ⟨-, -, now, -, hnow, -⟩ := h
    cases hface.symm.trans hnow
  | ok now =>
    refine ⟨ds, _, rfl, hkey, ?_⟩
    have hclamps : r.Clamps target reading ↔ r.options.Clamps d now := by
      simp [Clamps, hd, hface]
    rw [hclamps]
    exact r.options.resolveAt_diagnostics d now

theorem resolve_reads {target : Target} (h : target.writable = true) (reading : Reading) :
    (r.resolve target reading).reads = 1 := by
  obtain ⟨d, ds, hd⟩ := r.options.exists_descriptor h
  rw [resolve, hd]

theorem described_reads (target : Target) : (r.described target).reads = 0 := by
  rw [described]
  cases r.options.descriptor target <;> rfl

theorem reference_reads (reference : Json.Value) (given : Option Moment) (reading : Reading) :
    (r.reference reference given reading).reads = if given.isSome then 0 else 1 := by
  rw [Resolver.reference]
  cases (given.map .ok).getD (r.face.moment reading) with
  | error e => rfl
  | ok t =>
    dsimp only
    cases r.options.referenceMomentOf reference t <;> rfl

end Resolver

namespace Session

inductive Resolves (s : Session) : Task → Target → Prop
  | target {target : Target} (h : target.writable = true) : Resolves s (.resolve target) target
  | stored {stored : Json.Value} {key : Json.Literal}
      (h : TimeValue.ofValue stored = .ok (.relative key)) :
      Resolves s (.timeValue stored) (.key (.string key))
  | found {text : String} {f : Phrase.Found} (h : Phrase.parse text = .ok (some f))
      (client : Option Client) (debug : Bool) :
      Resolves s (.normalize text client debug) (.descriptor f.descriptor)
  | completed {text : String} {client : Option Client} {w : Window}
      (h : Phrase.parse text = .ok none)
      (hw : (Completion.run s.environment client).window = .ok (some w)) (debug : Bool) :
      Resolves s (.normalize text client debug) (.descriptor w.descriptor)

def Looks (s : Session) (task : Task) : Prop :=
  (∃ target, Resolves s task target) ∨ ∃ reference, task = .reference reference none

/-- What is reported before a task comes to resolve. -/
def eventsBefore (s : Session) : Task → List Event
  | .normalize text client _ =>
    match Phrase.parse text with
    | .ok none => (Completion.run s.environment client).events
    | _ => []
  | _ => []

variable {s : Session} {task : Task} {target : Target} {reading : Reading}

theorem Resolves.writable (h : Resolves s task target) : target.writable = true := by
  cases h with
  | target h => exact h
  | stored => rfl
  | found => rfl
  | completed => rfl

theorem perform_of_resolves (h : Resolves s task target) :
    (s.perform reading task).reads = 1 ∧ (s.perform reading task).events =
      eventsBefore s task ++ (s.resolver.resolve target reading).events := by
  cases h with
  | target h => exact ⟨s.resolver.resolve_reads h reading, rfl⟩
  | stored h =>
    rw [perform, rangeOfStored, h]
    exact ⟨s.resolver.resolve_reads rfl reading, rfl⟩
  | found h client debug =>
    rw [perform, Normalization.run, eventsBefore, h]
    exact ⟨rfl, rfl⟩
  | completed h hw debug =>
    rw [perform, Normalization.run, eventsBefore, h]
    dsimp only
    rw [hw]
    exact ⟨rfl, rfl⟩

theorem perform_reads_of_looks (h : Looks s task) : (s.perform reading task).reads = 1 := by
  rcases h with ⟨target, h⟩ | ⟨reference, rfl⟩
  · exact (perform_of_resolves h).1
  · exact s.resolver.reference_reads reference none reading

theorem resolves_or_fails (s : Session) (text : String) (client : Option Client) (debug : Bool) :
    (∃ target, Resolves s (.normalize text client debug) target) ∨ ∀ reading,
      let outcome := Normalization.run ⟨s.resolver, s.environment, client, debug⟩ text reading
      outcome.reads = 0 ∧ ∃ e, outcome.result = .error e := by
  cases hparse : Phrase.parse text with
  | error e =>
    refine .inr fun reading => ?_
    rw [Normalization.run, hparse]
    exact ⟨rfl, _, rfl⟩
  | ok found =>
    cases found with
    | some f => exact .inl ⟨_, .found hparse client debug⟩
    | none =>
      obtain ⟨window, hwindow⟩ := Completion.exists_window s.environment client
      cases window with
      | some w => exact .inl ⟨_, .completed hparse hwindow debug⟩
      | none =>
        refine .inr fun reading => ?_
        simp [Normalization.run, hparse, Normalization.resolveStage, Normalization.modelStage,
          hwindow]

theorem perform_reads_of_not_looks (h : ¬Looks s task) : (s.perform reading task).reads = 0 := by
  cases task with
  | parse key => exact s.resolver.described_reads (.key key)
  | label target => exact s.resolver.described_reads target
  | resolve target =>
    have hunwritable : target.writable = false :=
      Bool.eq_false_iff.2 fun hwritable => h (.inl ⟨target, .target hwritable⟩)
    rw [perform, Resolver.resolve_of_unwritable hunwritable]
    rfl
  | reference reference now =>
    cases now with
    | none => exact absurd (.inr ⟨reference, rfl⟩) h
    | some t => exact s.resolver.reference_reads reference (some t) reading
  | timeValue stored =>
    rw [perform, rangeOfStored]
    cases hstored : TimeValue.ofValue stored with
    | error e => rfl
    | ok value =>
      cases value with
      | absolute start finish => rfl
      | relative key => exact absurd (.inl ⟨_, .stored hstored⟩) h
  | normalize text client debug =>
    rcases resolves_or_fails s text client debug with hresolves | hfails
    · exact absurd (.inl hresolves) h
    · exact (hfails reading).1

theorem looks_of_normalized {n : Normalization.Normalized}
    (h : (s.perform reading task).result = .ok (.normalized n)) : Looks s task := by
  by_contra hnot
  cases task with
  | parse key =>
    obtain ⟨d, -, hd⟩ := Except.map_eq_ok_iff.1 h
    cases hd
  | label target =>
    obtain ⟨text, -, htext⟩ := Except.map_eq_ok_iff.1 h
    cases htext
  | resolve target =>
    obtain ⟨range, -, hrange⟩ := Except.map_eq_ok_iff.1 h
    cases hrange
  | reference reference now =>
    obtain ⟨t, -, ht⟩ := Except.map_eq_ok_iff.1 h
    cases ht
  | timeValue stored =>
    rw [perform, rangeOfStored] at h
    split at h
    · cases h
    · obtain ⟨range, -, hrange⟩ := Except.map_eq_ok_iff.1 h
      cases hrange
  | normalize text client debug =>
    rcases resolves_or_fails s text client debug with hresolves | hfails
    · exact hnot (.inl hresolves)
    · obtain ⟨-, e, he⟩ := hfails reading
      obtain ⟨n', hn, -⟩ := Except.map_eq_ok_iff.1 h
      cases he.symm.trans hn

def taken (outcomes : List (Outcome Answer)) : Nat :=
  (outcomes.map (·.reads)).sum

theorem run_append (clock : Clock) (before after : List (Session × Task)) :
    run clock (before ++ after) =
      run clock before ++ run (clock.after (taken (run clock before))) after := by
  induction before generalizing clock with
  | nil => rfl
  | cons step rest ih =>
    simp only [List.cons_append, run, ih, taken, List.map_cons, List.sum_cons, Clock.after_add]

theorem run_cons (clock : Clock) (s : Session) (task : Task) (after : List (Session × Task)) :
    run clock ((s, task) :: after) = s.perform clock.next task ::
      run (clock.after (s.perform clock.next task).reads) after := by
  rw [run, performing_eq]

theorem perform_reads_eq {s' : Session} {task' : Task} (h : Looks s' task' ↔ Looks s task) :
    (s'.perform reading task').reads = (s.perform reading task).reads := by
  by_cases hlooks : Looks s task
  · rw [perform_reads_of_looks hlooks, perform_reads_of_looks (h.2 hlooks)]
  · rw [perform_reads_of_not_looks hlooks, perform_reads_of_not_looks (mt h.1 hlooks)]

theorem run_append_cons (clock : Clock) (before after : List (Session × Task)) (s : Session)
    (task : Task) :
    let earlier := run clock before
    let alone := s.perform (clock.after (taken earlier)).next task
    run clock (before ++ (s, task) :: after) =
      earlier ++ alone :: run (clock.after (taken earlier + alone.reads)) after := by
  intro earlier alone
  rw [run_append, run_cons, ← Clock.after_add]

/-- Each step of a session, at the next unread reading: it comes to what it comes to alone with a
clock that stands still there, it takes that reading exactly if it needs the time, and the steps to
come are those of any other step in its place that takes as many. -/
theorem run_snapshot (clock : Clock) (before after : List (Session × Task)) (s : Session)
    (task : Task) :
    let earlier := run clock before
    let reading := (clock.after (taken earlier)).next
    let alone := s.perform reading task
    let later := run (clock.after (taken earlier + alone.reads)) after
    run ⟨reading, []⟩ [(s, task)] = [alone] ∧
      run clock (before ++ (s, task) :: after) = earlier ++ alone :: later ∧
      (Looks s task ∧ alone.reads = 1 ∨ ¬Looks s task ∧ alone.reads = 0) ∧
      (∀ n, alone.result = .ok (.normalized n) → Looks s task) ∧
      (∀ s' task', (Looks s' task' ↔ Looks s task) → ∃ other,
        run clock (before ++ (s', task') :: after) = earlier ++ other :: later) ∧
      (¬Looks s task → run clock (before ++ after) = earlier ++ later) ∧
      ∀ target, Resolves s task target → ∃ onKey onOffset : List Diagnostic,
        alone.events = eventsBefore s task ++ s.resolver.sink.report (onKey ++ onOffset) ∧
        (target.Unreadable ∧ onKey.map Diagnostic.code =
            ["relative_time.decode_failed", "relative_time.fallback_used"] ∨
          ¬target.Unreadable ∧ onKey = []) ∧
        (s.resolver.Clamps target reading ∧ onOffset.map Diagnostic.code =
            ["relative_time.offset_out_of_range"] ∨
          ¬s.resolver.Clamps target reading ∧ onOffset = []) := by
  intro earlier reading alone later
  refine ⟨run_cons _ s task [], run_append_cons clock before after s task, ?_,
    fun n hn => looks_of_normalized hn, fun s' task' hlooks => ?_, fun hnot => ?_,
    fun target htarget => ?_⟩
  · by_cases hlooks : Looks s task
    · exact .inl ⟨hlooks, perform_reads_of_looks hlooks⟩
    · exact .inr ⟨hlooks, perform_reads_of_not_looks hlooks⟩
  · refine ⟨s'.perform reading task', ?_⟩
    rw [run_append_cons, perform_reads_eq hlooks]
  · have hreads : alone.reads = 0 := perform_reads_of_not_looks hnot
    simp only [later, hreads, Nat.add_zero]
    exact run_append clock before after
  · obtain ⟨onKey, onOffset, hevents, hcodes⟩ := s.resolver.resolve_diagnostics htarget.writable reading
    refine ⟨onKey, onOffset, ?_, hcodes⟩
    rw [← hevents]
    exact (perform_of_resolves htarget).2

/-- A stored value that is refused takes no reading and a window takes one, so a text that is no key
is resolved at the second reading. -/
theorem run_snapshot_after_refusal :
    let s : Session := ⟨{ sink := .asker }, []⟩
    let first : Reading := ⟨⟨1709208000000000, by decide, by decide⟩, false⟩
    let second : Reading := ⟨⟨1709211600000000, by decide, by decide⟩, false⟩
    let before : List (Session × Task) :=
      [(s, .timeValue .null), (s, .resolve (.descriptor .today))]
    let task : Task := .resolve (.key (.ofText "today"))
    run ⟨first, [second]⟩ (before ++ [(s, task)]) =
        run ⟨first, [second]⟩ before ++ [s.perform second task] ∧
      (s.perform second task).reads = 1 := by
  intro s first second before task
  have htask : Looks s task := .inl ⟨_, .target rfl⟩
  have hwindow : Looks s (.resolve (.descriptor .today)) := .inl ⟨_, .target rfl⟩
  have hrefused : (s.perform first (.timeValue .null)).reads = 0 := rfl
  have hnext : ((Clock.mk first [second]).after (taken (run ⟨first, [second]⟩ before))).next =
      second := by
    simp [before, run, taken, performing_eq, hrefused, perform_reads_of_looks hwindow]
    rfl
  obtain ⟨-, hrun, hreads, -⟩ := run_snapshot ⟨first, [second]⟩ before [] s task
  rw [hnext] at hrun hreads
  obtain ⟨-, hreads⟩ | ⟨hnot, -⟩ := hreads
  · exact ⟨hrun, hreads⟩
  · exact absurd htask hnot

end Session

end TimeWindow
