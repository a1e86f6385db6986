import TimeWindow.Proofs.Completion.Acceptable
import TimeWindow.Proofs.Settings

/-!
Asking a model. It is asked until an answer names a window or the attempts are used up, each time
with the same prompt; each answer before that lacks something, which is recorded. Nothing fails on
the way, as no whole number of a document that could be read is too long to be written out.
-/

namespace TimeWindow

open Json (Value)

namespace Completion

/-- The answers to a number of attempts; a model that has no more replies fails. -/
def answers (attempts : Nat) (replies : List Reply) : List Reply :=
  (List.range attempts).map fun i => replies.getD i .exhausted

theorem answers_succ (attempts : Nat) (replies : List Reply) :
    answers (attempts + 1) replies =
      replies.headD .exhausted :: answers attempts replies.tail := by
  rw [answers, List.range_succ_eq_map, List.map_cons, List.map_map, answers]
  cases replies with
  | nil => rfl
  | cons reply rest => rfl

def recorded (events : List Event) : List Record :=
  events.filterMap fun e => match e with
    | .logged r => some r
    | _ => none

theorem recorded_rejection (ds : List Diagnostic) (r : Rejection) (events : List Event) :
    recorded (Sink.log.report ds ++ [.logged r.record] ++ events) = r.record :: recorded events := by
  have hnone : recorded (Sink.log.report ds) = [] := by
    induction ds with
    | nil => rfl
    | cons d rest ih => exact ih
  simp only [recorded] at hnone
  simp only [recorded, List.filterMap_append, hnone]
  rfl

theorem not_names_of_mem {rejected : List Reply} {reasons : List Rejection}
    (h : List.Forall₂ Lacks rejected reasons) : ∀ reply ∈ rejected, ∀ w, ¬Names reply w := by
  induction h with
  | nil => exact nofun
  | cons hlacks _ ih => exact List.forall_mem_cons.2 ⟨fun w => hlacks.not_names, ih⟩

theorem ask_cases (attempts : Nat) (replies : List Reply) :
    ∃ rejected reasons, List.Forall₂ Lacks rejected reasons ∧
      recorded (ask attempts replies).events = reasons.map Rejection.record ∧
      ((∃ reply rest w, answers attempts replies = rejected ++ reply :: rest ∧ Names reply w ∧
          (ask attempts replies).window = .ok (some w) ∧
          (ask attempts replies).calls = rejected.length + 1) ∨
        answers attempts replies = rejected ∧ (ask attempts replies).window = .ok none ∧
          (ask attempts replies).calls = attempts) := by
  induction attempts generalizing replies with
  | zero => exact ⟨[], [], .nil, rfl, .inr ⟨rfl, rfl, rfl⟩⟩
  | succ attempts ih =>
    rw [answers_succ, ask]
    rcases judge_cases (replies.headD .exhausted) with ⟨w, hnames, hjudge⟩ | ⟨r, ds, hlacks, hjudge⟩
    · rw [hjudge]
      exact ⟨[], [], .nil, rfl, .inl ⟨_, _, w, rfl, hnames, rfl, rfl⟩⟩
    · obtain ⟨rejected, reasons, hall, hrecorded, hcases⟩ := ih replies.tail
      rw [hjudge]
      refine ⟨replies.headD .exhausted :: rejected, r :: reasons, .cons hlacks hall, ?_, ?_⟩
      · rw [List.map_cons, ← hrecorded]
        exact recorded_rejection ds r _
      · rcases hcases with ⟨reply, rest, w, hanswers, hnames, hwindow, hcalls⟩ |
          ⟨hanswers, hwindow, hcalls⟩
        · refine .inl ⟨reply, rest, w, ?_, hnames, hwindow, congrArg Nat.succ hcalls⟩
          rw [hanswers, List.cons_append]
        · exact .inr ⟨by rw [hanswers], hwindow, congrArg Nat.succ hcalls⟩

variable {env : Environment} {client : Option Client}

theorem run_eq_nothing (h : Settings.completionEnabled env = .ok false ∨ client = none) :
    run env client = .nothing := by
  obtain ⟨enabled, henabled⟩ := Settings.exists_completionEnabled env
  rw [run.eq_def, henabled]
  rcases h with hdisabled | rfl
  · cases henabled.symm.trans hdisabled
    rfl
  · cases enabled <;> rfl

theorem run_eq_ask {c : Client} {limit : Int} (henabled : Settings.completionEnabled env = .ok true)
    (hlimit : Settings.completionLimit env = .ok limit) :
    run env (some c) = ask (max 1 (min limit 2)).toNat c.replies := by
  obtain ⟨timeout, htimeout⟩ := Settings.exists_completionTimeout env
  have hreplies : repliesTo env c = c.replies := by rw [repliesTo, htimeout]
  rw [run.eq_def, henabled, Settings.completionAttempts_of_limit hlimit, ← hreplies]

theorem exists_window (env : Environment) (client : Option Client) :
    ∃ w, (run env client).window = .ok w := by
  obtain ⟨enabled, henabled⟩ := Settings.exists_completionEnabled env
  obtain ⟨limit, hlimit⟩ := Settings.exists_completionLimit env
  cases client with
  | none => exact ⟨none, congrArg Result.window (run_eq_nothing (.inr rfl))⟩
  | some c =>
    cases enabled with
    | false => exact ⟨none, congrArg Result.window (run_eq_nothing (.inl henabled))⟩
    | true =>
      rw [run_eq_ask henabled hlimit]
      obtain ⟨_, _, -, -, ⟨_, _, w, -, -, hwindow, -⟩ | ⟨-, hwindow, -⟩⟩ :=
        ask_cases (max 1 (min limit 2)).toNat c.replies
      · exact ⟨some w, hwindow⟩
      · exact ⟨none, hwindow⟩

theorem calls_length (env : Environment) (client : Option Client) (text : String) :
    (calls env client text).length = (run env client).calls := by
  obtain ⟨timeout, htimeout⟩ := Settings.exists_completionTimeout env
  cases client with
  | none =>
    rw [run_eq_nothing (.inr rfl)]
    rfl
  | some c =>
    rw [calls.eq_def, htimeout]
    exact List.length_replicate

theorem prompt_of_mem_calls {text : String} {call : Call} (h : call ∈ calls env client text) :
    call.prompt = Prompt.forText text := by
  rw [calls.eq_def] at h
  split at h
  · rw [List.eq_of_mem_replicate h]
  · cases h

/-- Asking a model comes to the first acceptable answer, or to none after all attempts, and nothing
on the way fails. -/
theorem run_first_acceptable (env : Environment) (client : Option Client) (text : String) :
    let result := run env client
    let calls := calls env client text
    (Settings.completionEnabled env = .ok false ∨ Settings.completionEnabled env = .ok true) ∧
      (Settings.completionEnabled env = .ok false ∨ client = none →
        result.window = .ok none ∧ calls = [] ∧ result.events = []) ∧
      ∀ c, client = some c → Settings.completionEnabled env = .ok true →
        ∃ (limit : Int) (attempts : Nat) (rejected : List Reply) (reasons : List Rejection),
          Settings.completionLimit env = .ok limit ∧ (attempts : Int) = max 1 (min limit 2) ∧
          (∀ call ∈ calls, call.prompt = Prompt.forText text) ∧
          List.Forall₂ Lacks rejected reasons ∧ (∀ reply ∈ rejected, ∀ w, ¬Names reply w) ∧
          recorded result.events = reasons.map Rejection.record ∧
          ((∃ reply rest w, answers attempts c.replies = rejected ++ reply :: rest ∧
              Names reply w ∧ calls.length = rejected.length + 1 ∧
              result.window.map (Option.map Window.descriptor) =
                .ok (some ⟨w, Key.write w.unit.text w.count w.reference.text⟩)) ∨
            answers attempts c.replies = rejected ∧ calls.length = attempts ∧
              result.window = .ok none) := by
  intro result calls
  obtain ⟨enabled, henabled⟩ := Settings.exists_completionEnabled env
  refine ⟨by cases enabled <;> simp [henabled], fun hnothing => ?_, ?_⟩
  · have hresult : run env client = .nothing := run_eq_nothing hnothing
    refine ⟨congrArg Result.window hresult, ?_, congrArg Result.events hresult⟩
    rw [← List.length_eq_zero_iff, calls_length, hresult]
    rfl
  · rintro c rfl hon
    obtain ⟨limit, hlimit⟩ := Settings.exists_completionLimit env
    obtain ⟨rejected, reasons, hlacks, hrecorded, hcases⟩ :=
      ask_cases (max 1 (min limit 2)).toNat c.replies
    have hresult : result = ask (max 1 (min limit 2)).toNat c.replies := run_eq_ask hon hlimit
    have hlength : calls.length = result.calls := calls_length env (some c) text
    rw [← hresult] at hrecorded hcases
    refine ⟨limit, _, rejected, reasons, hlimit, Int.toNat_of_nonneg (by omega),
      fun call => prompt_of_mem_calls, hlacks, not_names_of_mem hlacks, hrecorded, ?_⟩
    rcases hcases with ⟨reply, rest, w, hanswers, hnames, hwindow, hcalls⟩ |
      ⟨hanswers, hwindow, hcalls⟩
    · refine .inl ⟨reply, rest, w, hanswers, hnames, hlength.trans hcalls, ?_⟩
      rw [hwindow]
      rfl
    · exact .inr ⟨hanswers, hlength.trans hcalls, hwindow⟩

/-- A first answer that is no document is followed by a second one that names a window. -/
theorem run_first_acceptable_second :
    let env : Environment :=
      [("ENABLE_LLM_COMPLETION", "yes"), ("LLM_COMPLETION_MAX_ATTEMPTS", "7")]
    let answer :=
      "\x7b\"completed\":\x7b\"unit\":\"Day\",\"count\":3,\"referenceTime\":\"now\"\x7d\x7d"
    let client : Client := ⟨false, [.text "three days", .bytes (some answer)]⟩
    (run env (some client)).window.map (Option.map Window.descriptor) =
        .ok (some ⟨⟨.day, 3, .now⟩, "unit=(Day)&count=(3)&referenceTime=(now)"⟩) ∧
      (calls env (some client) "the last three days").length = 2 := by
  intro env answer client
  have hfirst : Json.read "three days" = none := by decide +kernel
  have hsecond : Json.read answer = some (.object [("completed", .object
      [("unit", .ofText "Day"), ("count", .int 3), ("referenceTime", .ofText "now")])]) := by
    cbv
  have hnames : Names (.bytes (some answer)) ⟨.day, 3, .now⟩ :=
    .document rfl hsecond rfl rfl rfl rfl
  have hset : (Settings.completionEnabled env).toOption = some true := by decide +kernel
  have hseven : (Settings.completionLimit env).toOption = some 7 := by decide +kernel
  obtain ⟨hswitch, -, hasked⟩ := run_first_acceptable env (some client) "the last three days"
  have hon : Settings.completionEnabled env = .ok true := by
    refine hswitch.resolve_left fun hoff => ?_
    rw [hoff] at hset
    cases hset
  obtain ⟨limit, attempts, rejected, reasons, hlimit, hattempts, -, -, hnot, -, hcases⟩ :=
    hasked client rfl hon
  rw [hlimit] at hseven
  cases hseven
  have htwo : attempts = 2 := by omega
  subst htwo
  rcases hcases with ⟨reply, rest, w, hanswers, hreply, hcalls, hwindow⟩ | ⟨hanswers, -, -⟩
  · cases rejected with
    | nil =>
      cases hanswers
      obtain ⟨htext, hread⟩ := hreply
      cases htext
      cases hfirst.symm.trans hread
    | cons first later =>
      cases later with
      | nil =>
        cases hanswers
        cases hreply.unique hnames
        exact ⟨hwindow.trans rfl, hcalls⟩
      | cons second later =>
        have hlength := congrArg List.length hanswers
        simp [answers] at hlength
  · have hmem : Reply.bytes (some answer) ∈ rejected := hanswers ▸ .tail _ (.head _)
    exact absurd hnames (hnot _ hmem _)

end Completion

end TimeWindow
