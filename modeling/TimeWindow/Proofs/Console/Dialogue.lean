import TimeWindow.Proofs.ChatModel.Question
import TimeWindow.Proofs.Console.Command
import TimeWindow.Proofs.Session.Running

/-!
Dialogues as the sum of their lines. What is printed up to the line that leaves is the answers one
after another, and what stands after it counts for nothing. A dialogue that comes to its end tells
each line what the library gives for it; while the clock stands still and no model is asked, a line
is answered as it is in a dialogue of its own.
-/

namespace TimeWindow

open Json (Value)

def Clock.Constant (c : Clock) : Prop := ∀ r ∈ c.later, r = c.next

theorem Clock.Constant.after {c : Clock} (h : c.Constant) (n : Nat) :
    (c.after n).next = c.next ∧ (c.after n).Constant := by
  induction n generalizing c with
  | zero => exact ⟨rfl, h⟩
  | succ n ih =>
    obtain ⟨next, later⟩ := c
    cases later with
    | nil => exact ih h
    | cons r rest =>
      have hr : r = next := h r List.mem_cons_self
      subst hr
      exact ih fun r' hr' => h r' (List.mem_cons_of_mem r hr')

namespace Client

theorem map_after_zero (client : Option Client) : client.map (·.after 0) = client := by
  cases client <;> rfl

theorem map_after_after (client : Option Client) (m n : Nat) :
    (client.map (·.after m)).map (·.after n) = client.map (·.after (m + n)) := by
  cases client with
  | none => rfl
  | some c => simp [after, List.drop_drop]

end Client

namespace Console

variable {session : Session} {client : Option Client} {clock : Clock} {line : String}
  {lines : List String} {reading : Reading}

def inputOf (lines : List String) : String := String.join (lines.map (· ++ "\n"))

theorem linesOf_append {cs : List Char} (h : '\n' ∉ cs) (read rest : List Char) :
    linesOf read (cs ++ rest) = linesOf (cs.reverse ++ read) rest := by
  induction cs generalizing read with
  | nil => rfl
  | cons c cs ih =>
    obtain ⟨hc, hcs⟩ := not_or.1 (mt List.mem_cons.2 h)
    rw [List.cons_append, linesOf, if_neg (Ne.symm hc), ih hcs]
    simp

theorem linesOf_inputOf (h : ∀ line ∈ lines, '\n' ∉ line.toList) :
    linesOf [] (inputOf lines).toList = lines := by
  induction lines with
  | nil => rfl
  | cons line rest ih =>
    obtain ⟨hline, hrest⟩ := List.forall_mem_cons.1 h
    have hinput : (inputOf (line :: rest)).toList =
        line.toList ++ '\n' :: (inputOf rest).toList := by
      simp [inputOf, String.toList_join]
    rw [hinput, linesOf_append hline, linesOf, if_pos rfl, ih hrest]
    simp

def handled (lines : List String) : List String :=
  lines.takeWhile fun line => Text.trim line ≠ "/exit"

theorem handled_of_exit (h : Text.trim line = "/exit") (rest : List String) :
    handled (line :: rest) = [] := by
  simp [handled, h]

theorem handled_of_not_exit (h : Text.trim line ≠ "/exit") (rest : List String) :
    handled (line :: rest) = line :: handled rest := by
  simp [handled, h]

theorem mem_of_mem_handled (h : line ∈ handled lines) : line ∈ lines :=
  (List.takeWhile_sublist _).subset h

theorem not_exit_of_mem_handled (h : line ∈ handled lines) : Text.trim line ≠ "/exit" := by
  have hkept := List.mem_takeWhile_imp h
  simpa using hkept

theorem turn_of_exit (h : Text.trim line = "/exit") :
    turn session client line reading = ⟨.say farewell, some .done⟩ := by
  rw [turn, Command.ofLine?, h]
  rfl

theorem turn_of_blank (h : Text.trim line = "") :
    turn session client line reading = ⟨.say "", none⟩ := by
  rw [turn, Command.ofLine?, h]
  rfl

theorem turn_of_asks {command : Command} (h : Asks line command) :
    (turn session client line reading).outcome = answer session client command reading ∧
      ((turn session client line reading).ending = none ∧
          (answer session client command reading).result = .ok () ∨
        ∃ e, (turn session client line reading).ending = some (.failed e) ∧
          (answer session client command reading).result = .error e) := by
  have hne : command ≠ .exit := by
    rintro rfl
    cases h
  rw [turn, ofLine?_of_asks h]
  cases command with
  | exit => exact absurd rfl hne
  | _ =>
    dsimp only
    cases hresult : (answer session client _ reading).result with
    | ok u => exact ⟨rfl, .inl ⟨rfl, rfl⟩⟩
    | error e => exact ⟨rfl, .inr ⟨e, rfl, rfl⟩⟩

theorem turn_outcome {command : Command} (h : Asks line command) :
    (turn session client line reading).outcome = answer session client command reading :=
  (turn_of_asks h).1

theorem turn_ending_eq_none_iff {command : Command} (h : Asks line command) :
    (turn session client line reading).ending = none ↔
      (answer session client command reading).result = .ok () := by
  obtain ⟨-, ⟨hending, hresult⟩ | ⟨e, hending, hresult⟩⟩ :=
    (turn_of_asks h : (turn session client line reading).outcome = _ ∧ _)
  · exact iff_of_true hending hresult
  · rw [hending, hresult]
    exact iff_of_false nofun nofun

theorem turn_ending_cases (session : Session) (client : Option Client) (reading : Reading)
    (h : Text.trim line ≠ "/exit") :
    (turn session client line reading).ending = none ∨
      ∃ e, (turn session client line reading).ending = some (.failed e) := by
  by_cases hblank : Text.trim line = ""
  · exact .inl (by rw [turn_of_blank hblank])
  · obtain ⟨command, hcommand⟩ := exists_asks hblank h
    rcases (turn_of_asks hcommand).2 with ⟨hending, -⟩ | ⟨e, hending, -⟩
    · exact .inl hending
    · exact .inr ⟨e, hending⟩

inductive Tells (session : Session) (client : Option Client) (reading : Reading) :
    String → String → Prop
  | blank {line : String} (h : Text.trim line = "") : Tells session client reading line ""
  | command {line text : String} {command : Command} (hasks : Asks line command)
      (hsaid : Said session client reading command text) : Tells session client reading line text

theorem turn_tells (hexit : Text.trim line ≠ "/exit")
    (h : (turn session client line reading).ending = none) :
    Tells session client reading line (turn session client line reading).outcome.printed := by
  by_cases hblank : Text.trim line = ""
  · rw [turn_of_blank hblank]
    exact .blank hblank
  · obtain ⟨command, hcommand⟩ := exists_asks hblank hexit
    rw [turn_outcome hcommand]
    exact .command hcommand (said_of_asks hcommand ((turn_ending_eq_none_iff hcommand).1 h))

/-- The end of a dialogue: a farewell, on a line of its own if the input ends first. -/
def closing (lines : List String) : String :=
  prompt ++ (if lines.any (Text.trim · = "/exit") then "" else "\n") ++ farewell

theorem dialogue_of_exit (h : Text.trim line = "/exit") (rest : List String) :
    dialogue session client clock (line :: rest) = .final (.say farewell) .done := by
  rw [dialogue, turn_of_exit h]

theorem dialogue_of_none (h : (turn session client line clock.next).ending = none)
    (rest : List String) :
    let outcome := (turn session client line clock.next).outcome
    dialogue session client clock (line :: rest) =
      .after outcome (dialogue session (client.map (·.after outcome.calls.length))
        (clock.after outcome.reads) rest) := by
  simp only [dialogue, h]

theorem dialogue_printed (hclock : clock.Constant) (h : ∀ line ∈ handled lines,
      (turn session none line clock.next).ending = none) :
    (dialogue session none clock lines).printed =
        String.join ((handled lines).map fun line =>
          prompt ++ (turn session none line clock.next).outcome.printed) ++ closing lines ∧
      (dialogue session none clock lines).ending = .done := by
  induction lines generalizing clock with
  | nil =>
    refine ⟨?_, rfl⟩
    simp [dialogue, Transcript.final, lastTurn, Outcome.say, handled, closing, String.append_assoc]
  | cons line rest ih =>
    by_cases hexit : Text.trim line = "/exit"
    · rw [dialogue_of_exit hexit, handled_of_exit hexit]
      simp [Transcript.final, Outcome.say, closing, hexit]
    · rw [handled_of_not_exit hexit] at h ⊢
      obtain ⟨hline, hrest⟩ := List.forall_mem_cons.1 h
      obtain ⟨hnext, hconstant⟩ :=
        hclock.after (turn session none line clock.next).outcome.reads
      rw [← hnext] at hrest
      obtain ⟨hprinted, hending⟩ := ih hconstant hrest
      rw [hnext] at hprinted
      have hclosing : closing (line :: rest) = closing rest := by simp [closing, hexit]
      rw [dialogue_of_none hline]
      refine ⟨?_, hending⟩
      simp only [Transcript.after, Option.map_none, hprinted, hclosing, List.map_cons,
        String.join_cons, String.append_assoc]

theorem dialogue_failed {e : Failure}
    (h : (turn session client line clock.next).ending = some (.failed e)) (rest : List String) :
    (dialogue session client clock (line :: rest)).ending = .failed e := by
  simp only [dialogue, h, Transcript.final]

/-- A dialogue that comes to its end tells each line before that what the library gives for it, at
some reading of its clock and with the replies that are left of its model. -/
theorem dialogue_tells (h : (dialogue session client clock lines).ending = .done) :
    ∃ said, List.Forall₂ (fun line text => ∃ looks calls,
        Tells session (client.map (·.after calls)) (clock.after looks).next line text)
          (handled lines) said ∧
      (dialogue session client clock lines).printed =
        String.join (said.map (prompt ++ ·)) ++ closing lines := by
  induction lines generalizing client clock with
  | nil =>
    refine ⟨[], .nil, ?_⟩
    simp [dialogue, Transcript.final, lastTurn, Outcome.say, closing, String.append_assoc]
  | cons line rest ih =>
    by_cases hexit : Text.trim line = "/exit"
    · rw [dialogue_of_exit hexit, handled_of_exit hexit]
      refine ⟨[], .nil, ?_⟩
      simp [Transcript.final, Outcome.say, closing, hexit]
    · rw [handled_of_not_exit hexit]
      rcases turn_ending_cases session client clock.next hexit with hnone | ⟨e, hfailed⟩
      · rw [dialogue_of_none hnone] at h ⊢
        obtain ⟨said, hall, hprinted⟩ := ih h
        have hclosing : closing (line :: rest) = closing rest := by simp [closing, hexit]
        refine ⟨(turn session client line clock.next).outcome.printed :: said,
          .cons ⟨0, 0, ?_⟩ (hall.imp ?_), ?_⟩
        · rw [Client.map_after_zero, Clock.after_zero]
          exact turn_tells hexit hnone
        · rintro line text ⟨looks, calls, htells⟩
          rw [Client.map_after_after, ← Clock.after_add] at htells
          exact ⟨_, _, htells⟩
        · simp only [Transcript.after, hprinted, hclosing, List.map_cons, String.join_cons,
            String.append_assoc]
      · cases (dialogue_failed hfailed rest).symm.trans h

theorem dialogue_after_exit {before after : List String} (h : Text.trim line = "/exit") :
    dialogue session client clock (before ++ line :: after) =
      dialogue session client clock (before ++ [line]) := by
  induction before generalizing client clock with
  | nil => simp only [List.nil_append, dialogue, turn_of_exit h]
  | cons first rest ih => simp only [List.cons_append, dialogue, ih]

variable {replies : List Reply}

theorem not_done_of_connection {ended : Transcript}
    (h : connection session.environment = .error ended) : ended.ending ≠ .done := by
  rw [connection] at h
  rcases Except.bind_eq_error_iff.1 h with hswitch | ⟨enabled, -, h⟩
  · obtain ⟨e, -, rfl⟩ := Except.mapError_eq_error_iff.1 hswitch
    exact nofun
  · cases enabled with
    | false => cases h
    | true =>
      rcases Except.bind_eq_error_iff.1 h with htimeout | ⟨timeout, -, h⟩
      · obtain ⟨e, -, rfl⟩ := Except.mapError_eq_error_iff.1 htimeout
        exact nofun
      · obtain ⟨name, -, rfl⟩ := Except.mapError_eq_error_iff.1 (Except.map_eq_error_iff.1 h)
        exact nofun

theorem run_of_disabled (h : Settings.completionEnabled session.environment = .ok false)
    (hlines : ∀ line ∈ lines, '\n' ∉ line.toList) :
    run session replies clock (inputOf lines) =
      (none, { dialogue session none clock lines with
        printed := banner ++ (dialogue session none clock lines).printed }) := by
  have hconnection : connection session.environment = .ok none := by
    rw [connection, h]
    rfl
  rw [run, hconnection, linesOf_inputOf hlines]
  rfl

theorem run_line_iff (h : Settings.completionEnabled session.environment = .ok false)
    (hline : '\n' ∉ line.toList) (hexit : Text.trim line ≠ "/exit") :
    (∀ e, (run session replies clock (inputOf [line])).2.ending ≠ .failed e) ↔
      (turn session none line clock.next).ending = none := by
  rw [run_of_disabled h (List.forall_mem_singleton.2 hline)]
  rcases turn_ending_cases session none clock.next hexit with hnone | ⟨e, hfailed⟩
  · refine iff_of_true (fun e hfailed => ?_) hnone
    rw [dialogue_of_none hnone] at hfailed
    cases hfailed
  · have hending : (dialogue session none clock [line]).ending = .failed e :=
      dialogue_failed hfailed []
    refine iff_of_false (fun hall => hall e hending) ?_
    rw [hfailed]
    exact nofun

theorem run_printed (hdisabled : Settings.completionEnabled session.environment = .ok false)
    (hclock : clock.Constant) (hlines : ∀ line ∈ lines, '\n' ∉ line.toList)
    (h : ∀ line ∈ handled lines, (turn session none line clock.next).ending = none) :
    (run session replies clock (inputOf lines)).2.printed =
      banner ++ String.join ((handled lines).map fun line =>
        prompt ++ (turn session none line clock.next).outcome.printed) ++ closing lines := by
  rw [run_of_disabled hdisabled hlines, String.append_assoc, ← (dialogue_printed hclock h).1]

/-- What a dialogue prints: the banner, the answers one after another up to the line that leaves,
and the farewell. -/
theorem run_concatenates (hdisabled : Settings.completionEnabled session.environment = .ok false)
    (hclock : clock.Constant) (hlines : ∀ line ∈ lines, '\n' ∉ line.toList)
    (hhandled : ∀ line ∈ handled lines, ∀ e,
      (run session replies clock (inputOf [line])).2.ending ≠ .failed e) :
    let printed := fun lines => (run session replies clock (inputOf lines)).2.printed
    let said := fun line => (turn session none line clock.next).outcome.printed
    printed lines = banner ++ String.join ((handled lines).map (prompt ++ said ·)) ++ closing lines ∧
      (∀ line ∈ handled lines,
        printed [line] = banner ++ (prompt ++ said line) ++ (prompt ++ "\n" ++ farewell) ∧
          (Text.trim line = "" → said line = "")) ∧
      (∀ before line after, lines = before ++ line :: after → Text.trim line = "/exit" →
        run session replies clock (inputOf lines) =
          run session replies clock (inputOf (before ++ [line]))) ∧
      (∀ line, Text.trim line ≠ "" → Text.trim line ≠ "/exit" → ∃! command, Asks line command) ∧
      (∀ line command, Asks line command →
        (turn session none line clock.next).outcome = answer session none command clock.next) ∧
      (∀ line arguments, Asks line (.encode arguments) →
        (turn session none line clock.next).ending = none ∧ Encoded arguments (said line)) ∧
      ∀ line ∈ handled lines, ∀ key w, Asks line (.resolve key) →
        Key.decode (.ofText key) = .ok w → ∃ range value,
          (session.resolver.resolve (.key (.ofText key)) clock.next).result = .ok range ∧
            range.toValue = .ok value ∧
              said line = shownWith (.object [("key", .ofText key), ("range", value)]) range := by
  intro printed said
  have hnone : ∀ line ∈ handled lines, (turn session none line clock.next).ending = none :=
    fun line hline => (run_line_iff hdisabled (hlines line (mem_of_mem_handled hline))
      (not_exit_of_mem_handled hline)).1 (hhandled line hline)
  refine ⟨run_printed hdisabled hclock hlines hnone, fun line hline => ⟨?_, fun hblank => ?_⟩,
    fun before line after hsplit hexit => ?_, fun line hblank hexit => ?_,
    fun line command hcommand => turn_outcome hcommand, fun line arguments hencode => ⟨?_, ?_⟩,
    fun line hline key w hresolve hkey => ?_⟩
  · have hexit := not_exit_of_mem_handled hline
    have hsingle : handled [line] = [line] := handled_of_not_exit hexit []
    have honly : ∀ l ∈ handled [line], (turn session none l clock.next).ending = none := by
      rw [hsingle]
      exact List.forall_mem_singleton.2 (hnone line hline)
    have hends : ∀ l ∈ [line], '\n' ∉ l.toList :=
      List.forall_mem_singleton.2 (hlines line (mem_of_mem_handled hline))
    refine (run_printed hdisabled hclock hends honly).trans ?_
    simp [hsingle, closing, hexit, String.append_assoc, said]
  · simp only [said, turn_of_blank hblank, Outcome.say]
  · subst hsplit
    have hbefore : ∀ l ∈ before ++ [line], '\n' ∉ l.toList := by
      intro l hl
      apply hlines l
      rcases List.mem_append.1 hl with hl | hl
      · exact List.mem_append_left _ hl
      · exact List.mem_append_right _ (List.mem_cons.2 (.inl (List.mem_singleton.1 hl)))
    rw [run_of_disabled hdisabled hlines, run_of_disabled hdisabled hbefore,
      dialogue_after_exit hexit]
  · obtain ⟨command, hcommand⟩ := exists_asks hblank hexit
    refine ⟨command, hcommand, fun other hother => ?_⟩
    exact Option.some.inj ((ofLine?_of_asks hother).symm.trans (ofLine?_of_asks hcommand))
  · exact (turn_ending_eq_none_iff hencode).2 rfl
  · simp only [said, turn_outcome hencode]
    exact encoded_spec arguments
  · have hresult := (turn_ending_eq_none_iff hresolve).1 (hnone line hline)
    obtain ⟨s, hs, hread⟩ := Key.decode_eq_ok_iff.1 hkey
    cases hs
    obtain ⟨d, range, value, hparse, hrange, hvalue, hprinted⟩ := resolved_printed hresult
    cases hparse.symm.trans (parse_of_read hread)
    simp only [said, turn_outcome hresolve]
    exact ⟨range, value, hrange, hvalue, hprinted⟩

/-- A label, a blank line and the way out; the command after it is not heard. -/
theorem run_concatenates_label :
    let session : Session := ⟨{}, []⟩
    let reading : Reading := ⟨⟨1709208000000000, by decide, by decide⟩, false⟩
    let lines := ["/label today", "  ", "/exit ", "/presets"]
    (run session [] ⟨reading, [reading]⟩ (inputOf lines)).2.printed =
      banner ++ "You> Today\nYou> You> Bye.\n" := by
  intro session reading lines
  have hdisabled : Settings.completionEnabled session.environment = .ok false := rfl
  have hclock : (Clock.mk reading [reading]).Constant := List.forall_mem_singleton.2 rfl
  have hends : ∀ line ∈ lines, '\n' ∉ line.toList := by decide
  have hhandled : handled lines = ["/label today", "  "] := by decide +kernel
  have hlabel : Asks "/label today" (.label (Text.trim "today")) := .label (by decide +kernel)
  have hblank : Text.trim "  " = "" := by decide +kernel
  have hnone : ∀ line ∈ handled lines, ∀ e,
      (run session [] ⟨reading, [reading]⟩ (inputOf [line])).2.ending ≠ .failed e := by
    intro line hline
    have hmem := hends line (mem_of_mem_handled hline)
    refine (run_line_iff hdisabled hmem (not_exit_of_mem_handled hline)).2 ?_
    rw [hhandled] at hline
    rcases List.mem_pair.1 hline with rfl | rfl
    · exact (turn_ending_eq_none_iff hlabel).2 rfl
    · rw [turn_of_blank hblank]
  obtain ⟨hprinted, -⟩ := run_concatenates hdisabled hclock hends hnone
  have hlabelled : (turn session none "/label today" reading).outcome.printed = "Today\n" := by
    decide +kernel
  have hclosing : closing lines = prompt ++ farewell := by decide +kernel
  refine hprinted.trans ?_
  rw [hhandled, hclosing]
  simp only [List.map_cons, List.map_nil, hlabelled, turn_of_blank hblank, Outcome.say]
  simp [prompt, farewell, String.append_assoc]

/-- A run that comes to its end, whatever model there is and however the clock goes on, prints what
the library gives for each line. -/
theorem run_tells (hlines : ∀ line ∈ lines, '\n' ∉ line.toList)
    (h : (run session replies clock (inputOf lines)).2.ending = .done) :
    ∃ (client : Option Client) (said : List String),
      (client = none ∨ client = some ⟨false, replies⟩) ∧
      List.Forall₂ (fun line text => ∃ looks calls,
        Tells session (client.map (·.after calls)) (clock.after looks).next line text)
          (handled lines) said ∧
      (run session replies clock (inputOf lines)).2.printed =
        banner ++ (String.join (said.map (prompt ++ ·)) ++ closing lines) := by
  unfold run at h ⊢
  rw [linesOf_inputOf hlines] at h ⊢
  cases hconnection : connection session.environment with
  | error ended =>
    rw [hconnection] at h
    exact absurd h (not_done_of_connection hconnection)
  | ok found =>
    rw [hconnection] at h
    obtain ⟨said, htold, hprinted⟩ := dialogue_tells h
    refine ⟨_, said, ?_, htold, congrArg (banner ++ ·) hprinted⟩
    cases found with
    | none => exact .inl rfl
    | some c => exact .inr rfl

/-- A run for which a model is wanted ends at once if one of the three variables that describe it is
lacking: the first of them is asked for. -/
theorem run_of_lacking {name : String}
    (henabled : Settings.completionEnabled session.environment = .ok true)
    (hlacking : ["LLM_MODEL", "LLM_BASE_URL", "LLM_API_KEY"].find?
      (ChatModel.Lacking session.environment ·) = some name) (input : String) :
    run session replies clock input =
      (none, ⟨ChatModel.missingLine name, .status 1, [.logged (ChatModel.missingRecord name)], 0,
        []⟩) := by
  obtain ⟨timeout, htimeout⟩ := Settings.exists_completionTimeout session.environment
  have hconnect : ChatModel.connect session.environment {} (some timeout) = .error name :=
    ChatModel.connect_eq_error_iff.2 hlacking
  rw [run, connection, henabled, htimeout]
  simp only [bind, Except.bind, Except.mapError, if_true, hconnect, Except.map]

end Console

end TimeWindow
