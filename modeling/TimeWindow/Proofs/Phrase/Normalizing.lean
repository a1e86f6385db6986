import TimeWindow.Proofs.Completion.Asking
import TimeWindow.Proofs.Phrase.Fault
import TimeWindow.Proofs.Resolve.Failure
import TimeWindow.Proofs.Resolve.Rendering

/-!
How resolving a text fails. In universal time, and after the first year, a window that is found is
resolved and written out. What is left is a text without a window, which is reported as such, and a
text with a fault that the phrase rules do not see.
-/

namespace TimeWindow

open Calendar (Moment Wall)
open Phrase (Faulty)

variable {reading : Reading} {w : Wall} {second : Bool}

theorem Resolver.exists_dated_range {r : Resolver}
    (hnow : r.face.moment reading = .ok ⟨w, second, .utc⟩) (hyear : 2 ≤ w.date.year)
    (d : Descriptor) :
    ∃ range, (r.resolve (.descriptor d) reading).result = .ok range ∧ range.IsDated := by
  have hnot : ¬r.options.BeforeCalendar d.reference ⟨w, second, .utc⟩ := by
    intro h
    have := h.year_eq
    dsimp only at this
    omega
  obtain ⟨range, hrange⟩ := Options.exists_resolveAt_of_fixed hnot rfl (by decide)
  exact ⟨range, (resolve_eq_ok_iff rfl hnow).2 hrange, Options.isDated_of_utc rfl hrange⟩

namespace Normalization

variable {setup : Setup} {text : String}

def Nothing (setup : Setup) (text : String) : Prop :=
  Phrase.parse text = .ok none ∧ (Completion.run setup.environment setup.client).window = .ok none

theorem exists_resolveStage (hnow : setup.resolver.face.moment reading = .ok ⟨w, second, .utc⟩)
    (hyear : 2 ≤ w.date.year) {stage : Stage} {d : Descriptor} (hd : stage.descriptor = some d) :
    ∃ n, (resolveStage setup stage reading).result = .ok n := by
  obtain ⟨range, hrange, hdated⟩ := Resolver.exists_dated_range hnow hyear d
  exact (resolveStage_result_iff hd hrange).2 hdated

theorem resolveStage_none {stage : Stage} (hd : stage.descriptor = none) :
    (resolveStage setup stage reading).result = .error (.noWindow stage.text) := by
  rw [resolveStage, hd]

theorem run_of_found {f : Phrase.Found} (h : Phrase.parse text = .ok (some f)) :
    (run setup text reading).result =
      (resolveStage setup (ruleStage text (some f)) reading).result := by
  rw [run, h]

theorem run_of_none {window : Option Window} (h : Phrase.parse text = .ok none)
    (hwindow : (Completion.run setup.environment setup.client).window = .ok window) :
    (run setup text reading).result =
      (resolveStage setup (modelStage (ruleStage text none) window) reading).result := by
  rw [run, h]
  dsimp only
  rw [hwindow]

theorem run_cases (hnow : setup.resolver.face.moment reading = .ok ⟨w, second, .utc⟩)
    (hyear : 2 ≤ w.date.year) (text : String) :
    (∃ e, Faulty text e ∧ (run setup text reading).result = .error (.phrase e)) ∨
      (∀ e, ¬Faulty text e) ∧
        (Nothing setup text ∧ (run setup text reading).result = .error (.noWindow text) ∨
          ¬Nothing setup text ∧ ∃ n, (run setup text reading).result = .ok n) := by
  simp only [← Phrase.parse_eq_error_iff]
  cases hparse : Phrase.parse text with
  | error e => exact .inl ⟨e, rfl, by rw [run, hparse]⟩
  | ok found =>
    simp only [reduceCtorEq, not_false_eq_true, implies_true, true_and, exists_false, false_and,
      false_or]
    cases found with
    | some f =>
      rw [run_of_found hparse, Nothing, hparse]
      exact .inr ⟨by simp, exists_resolveStage hnow hyear rfl⟩
    | none =>
      obtain ⟨window, hwindow⟩ := Completion.exists_window setup.environment setup.client
      rw [run_of_none hparse hwindow, Nothing, hparse, hwindow]
      cases window with
      | none => exact .inl ⟨⟨rfl, rfl⟩, resolveStage_none rfl⟩
      | some window => exact .inr ⟨by simp, exists_resolveStage hnow hyear rfl⟩

theorem Nothing.not_faulty (h : Nothing setup text) (e : Phrase.Fault) : ¬Faulty text e := by
  intro hfault
  cases (Phrase.parse_eq_error_iff.2 hfault).symm.trans h.1

theorem exists_run_iff (hnow : setup.resolver.face.moment reading = .ok ⟨w, second, .utc⟩)
    (hyear : 2 ≤ w.date.year) (text : String) :
    (∃ n, (run setup text reading).result = .ok n) ↔
      ¬Nothing setup text ∧ ∀ e, ¬Faulty text e := by
  rcases run_cases hnow hyear text with
    ⟨e, hfault, hrun⟩ | ⟨hnone, ⟨hnothing, hrun⟩ | ⟨hsome, n, hrun⟩⟩
  · rw [hrun]
    exact iff_of_false (fun ⟨_, h⟩ => nomatch h) fun h => h.2 e hfault
  · rw [hrun]
    exact iff_of_false (fun ⟨_, h⟩ => nomatch h) fun h => h.1 hnothing
  · exact iff_of_true ⟨n, hrun⟩ ⟨hsome, hnone⟩

theorem run_eq_error_iff (hnow : setup.resolver.face.moment reading = .ok ⟨w, second, .utc⟩)
    (hyear : 2 ≤ w.date.year) (text : String) {f : Failure} :
    (run setup text reading).result = .error f ↔
      Nothing setup text ∧ f = .noWindow text ∨ ∃ e, Faulty text e ∧ f = .phrase e := by
  rcases run_cases hnow hyear text with
    ⟨e, hfault, hrun⟩ | ⟨hnone, ⟨hnothing, hrun⟩ | ⟨hsome, n, hrun⟩⟩
  · rw [hrun, Except.error.injEq]
    constructor
    · rintro rfl
      exact .inr ⟨e, hfault, rfl⟩
    · rintro (⟨hnothing, -⟩ | ⟨e', hfault', rfl⟩)
      · exact absurd hfault (hnothing.not_faulty e)
      · rw [hfault.unique hfault']
  · rw [hrun, Except.error.injEq]
    constructor
    · rintro rfl
      exact .inl ⟨hnothing, rfl⟩
    · rintro (⟨-, rfl⟩ | ⟨e, hfault, -⟩)
      · rfl
      · exact absurd hfault (hnone e)
  · rw [hrun]
    refine iff_of_false (fun h => nomatch h) ?_
    rintro (⟨hnothing, -⟩ | ⟨e, hfault, -⟩)
    · exact hsome hnothing
    · exact hnone e hfault

end Normalization

namespace Console

variable {session : Session} {client : Option Client} {text line : String}

/-- Where a line of the command line leads that is resolved to this; a text without a window is
answered and ends nothing. -/
def endingOf : Except Failure Normalization.Normalized → Option Ending
  | .ok _ | .error (.noWindow _) => none
  | .error e => some (.failed e)

theorem ending_of_phrase (hline : Command.ofLine? line = some (.phrase text)) :
    (turn session client line reading).ending = endingOf (Normalization.run
      ⟨session.resolver, session.environment, client, false⟩ text reading).result := by
  rw [turn, hline]
  dsimp only [answer, normalized, Outcome.told]
  cases (Normalization.run ⟨session.resolver, session.environment, client, false⟩ text
    reading).result with
  | ok n => rfl
  | error e => cases e <;> rfl

theorem ending_phrase_iff (hnow : session.resolver.face.moment reading = .ok ⟨w, second, .utc⟩)
    (hyear : 2 ≤ w.date.year) (hline : Command.ofLine? line = some (.phrase text)) :
    ((turn session client line reading).ending = none ↔ ∀ e, ¬Faulty text e) ∧
      ∀ e, (turn session client line reading).ending = some (.failed (.phrase e)) ↔
        Faulty text e := by
  let setup : Normalization.Setup := ⟨session.resolver, session.environment, client, false⟩
  have hnow' : setup.resolver.face.moment reading = .ok ⟨w, second, .utc⟩ := hnow
  rw [ending_of_phrase hline]
  rcases Normalization.run_cases hnow' hyear text with
    ⟨e, hfault, hrun⟩ | ⟨hnone, ⟨-, hrun⟩ | ⟨-, n, hrun⟩⟩
  · rw [hrun]
    refine ⟨iff_of_false (fun h => nomatch h) fun h => h e hfault, fun e' => ?_⟩
    constructor
    · intro h
      cases h
      exact hfault
    · intro h
      rw [hfault.unique h]
      rfl
  · rw [hrun]
    exact ⟨iff_of_true rfl hnone, fun e => iff_of_false (fun h => nomatch h) (hnone e)⟩
  · rw [hrun]
    exact ⟨iff_of_true rfl hnone, fun e => iff_of_false (fun h => nomatch h) (hnone e)⟩

end Console

namespace Normalization

/-- How resolving a text fails in universal time after the first year: where neither the phrase
rules nor the model find a window, and where the first phrase that looks back has a fault. Only the
latter ends the dialogue on the command line. -/
theorem run_failure (hnow : setup.resolver.face.moment reading = .ok ⟨w, second, .utc⟩)
    (hyear : 2 ≤ w.date.year) (text : String) :
    let result := (run setup text reading).result
    ((∃ n, result = .ok n) ↔ ¬Nothing setup text ∧ ∀ e, ¬Faulty text e) ∧
    (∀ f, result = .error f ↔
      Nothing setup text ∧ f = .noWindow text ∨ ∃ e, Faulty text e ∧ f = .phrase e) ∧
    ∀ (session : Session) (line : String), session.resolver = setup.resolver →
      Console.Command.ofLine? line = some (.phrase text) →
        ((Console.turn session setup.client line reading).ending = none ↔ ∀ e, ¬Faulty text e) ∧
        ∀ e, (Console.turn session setup.client line reading).ending =
          some (.failed (.phrase e)) ↔ Faulty text e := by
  intro result
  refine ⟨exists_run_iff hnow hyear text, fun f => run_eq_error_iff hnow hyear text,
    fun session line hresolver hline => ?_⟩
  exact Console.ending_phrase_iff (hresolver ▸ hnow) hyear hline

/-- Without a model to ask, minutes are found and five of them in words are not. -/
theorem run_failure_without_model :
    let setup : Setup := ⟨{}, [], none, false⟩
    let reading : Reading := ⟨⟨1793491200000000, by decide, by decide⟩, false⟩
    (∃ n, (run setup "last 5 min" reading).result = .ok n) ∧
      (run setup "five minutes" reading).result = .error (.noWindow "five minutes") := by
  intro setup reading
  have hnow : setup.resolver.face.moment reading = .ok ⟨reading.wall, false, .utc⟩ :=
    Moment.ofUniversal_utc reading.wall
  have hyear : 2 ≤ reading.wall.date.year := by decide +kernel
  have hfound : Phrase.parse "last 5 min" =
      .ok (some ⟨"last 5 min", Window.descriptor ⟨.min, -5, .now⟩⟩) := by
    decide +kernel
  have hnone : Phrase.parse "five minutes" = .ok none := by decide +kernel
  obtain ⟨hok, -, -⟩ := run_failure hnow hyear "last 5 min"
  obtain ⟨-, herror, -⟩ := run_failure hnow hyear "five minutes"
  refine ⟨hok.2 ⟨fun h => ?_, fun e h => ?_⟩, (herror _).2 (.inl ⟨⟨hnone, rfl⟩, rfl⟩)⟩
  · exact nomatch hfound.symm.trans h.1
  · exact nomatch hfound.symm.trans (Phrase.parse_eq_error_iff.2 h)

/-- The pattern takes an undotted i for an i, the table of units does not. -/
theorem run_fails_on_undotted_i :
    let setup : Setup := ⟨{}, [], none, false⟩
    let reading : Reading := ⟨⟨1793491200000000, by decide, by decide⟩, false⟩
    (run setup "last 5 m\u0131n" reading).result = .error (.phrase (.unit "m\u0131n")) := by
  intro setup reading
  have hparse : Phrase.parse "last 5 m\u0131n" = .error (.unit "m\u0131n") := by decide +kernel
  rw [run, hparse]

end Normalization

end TimeWindow
