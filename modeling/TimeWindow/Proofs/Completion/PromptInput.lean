import TimeWindow.Proofs.Json.ReadBack
import TimeWindow.Prompt

/-!
The input in a prompt. It is a document on one line and the marker before it ends a line, so no text
in the input can stand for another marker: what follows the last marker is the input, and it is read
back as it was given.
-/

namespace TimeWindow.Prompt

open Json (Fields Textual Value)

structure LastAt (mark text before after : List Char) : Prop where
  text_eq : text = before ++ mark ++ after
  longest : ∀ b a, text = b ++ mark ++ a → b.length ≤ before.length

variable {mark text before after : List Char}

theorem LastAt.unique {b a : List Char} (h : LastAt mark text before after)
    (h' : LastAt mark text b a) : before = b ∧ after = a := by
  have hle := h'.longest _ _ h.text_eq
  have hge := h.longest _ _ h'.text_eq
  have hsame : before ++ mark ++ after = b ++ mark ++ a := h.text_eq.symm.trans h'.text_eq
  have hlength : (before ++ mark).length = (b ++ mark).length := by
    simp only [List.length_append]
    omega
  obtain ⟨hbefore, hafter⟩ := List.append_inj hsame hlength
  exact ⟨List.append_cancel_right hbefore, hafter⟩

theorem LastAt.cons (h : LastAt mark text before after) (c : Char) :
    LastAt mark (c :: text) (c :: before) after where
  text_eq := by rw [h.text_eq, List.cons_append, List.cons_append]
  longest b a hb := by
    cases b with
    | nil => exact Nat.zero_le _
    | cons d b =>
      rw [List.cons_append, List.cons_append, List.cons.injEq] at hb
      exact Nat.succ_le_succ (h.longest b a hb.2)

theorem afterLast?_spec (hmark : mark ≠ []) (text : List Char) :
    match afterLast? mark text with
    | some after => ∃ before, LastAt mark text before after
    | none => ∀ before after, text ≠ before ++ mark ++ after := by
  induction text with
  | nil =>
    intro before after h
    simp [hmark] at h
  | cons c rest ih =>
    rw [afterLast?]
    cases hlater : afterLast? mark rest with
    | some after =>
      rw [hlater] at ih
      obtain ⟨before, h⟩ := ih
      exact ⟨c :: before, h.cons c⟩
    | none =>
      rw [hlater] at ih
      have hempty : ∀ before after, c :: rest = before ++ mark ++ after → before = [] := by
        intro before after h
        cases before with
        | nil => rfl
        | cons d before =>
          rw [List.cons_append, List.cons_append, List.cons.injEq] at h
          exact absurd h.2 (ih before after)
      dsimp only
      by_cases hprefix : mark.isPrefixOf (c :: rest) = true
      · obtain ⟨after, hafter⟩ := List.isPrefixOf_iff_prefix.1 hprefix
        rw [if_pos hprefix, ← hafter, List.drop_left]
        refine ⟨[], rfl, fun b a hb => ?_⟩
        have hb := hempty b a (hafter.symm.trans hb)
        exact Nat.le_of_eq (congrArg List.length hb)
      · rw [if_neg hprefix]
        intro before after h
        have hbefore := hempty before after h
        subst hbefore
        exact hprefix (List.isPrefixOf_iff_prefix.2 ⟨after, h.symm⟩)

theorem LastAt.afterLast? (hmark : mark ≠ []) (h : LastAt mark text before after) :
    afterLast? mark text = some after := by
  have hspec := afterLast?_spec hmark text
  cases hfound : Prompt.afterLast? mark text with
  | none =>
    rw [hfound] at hspec
    exact absurd h.text_eq (hspec before after)
  | some found =>
    rw [hfound] at hspec
    obtain ⟨b, hlast⟩ := hspec
    rw [(h.unique hlast).2]

theorem lastAt_line (before line : List Char) (hafter : '\n' ∉ after) :
    LastAt (line ++ ['\n']) (before ++ (line ++ ['\n']) ++ after) before after where
  text_eq := rfl
  longest b a h := by
    have hends : (before ++ line) ++ '\n' :: after = (b ++ line) ++ '\n' :: a := by simpa using h
    rcases List.append_eq_append_iff.1 hends with ⟨more, hline, htail⟩ | ⟨more, hline, -⟩
    · cases more with
      | nil =>
        have hlength := congrArg List.length hline
        simp only [List.length_append, List.length_nil] at hlength
        omega
      | cons c more =>
        rw [List.cons_append, List.cons.injEq] at htail
        exact absurd (htail.2 ▸ List.mem_append_right more List.mem_cons_self) hafter
    · have hlength := congrArg List.length hline
      simp only [List.length_append] at hlength
      omega

theorem input_textual (text : String) (units references : List String) :
    Textual 2 (input text units references) := by
  have hwords : ∀ words : List String, Textual 1 (.array (words.map .ofText)) := by
    intro words
    refine .array fun v hv => ?_
    obtain ⟨word, -, rfl⟩ := List.mem_map.1 hv
    exact .string word
  have hnames : ["text", "allowed_units", "allowed_reference_times"].Nodup := by decide
  refine @Textual.object 1 [("text", .ofText text), ("allowed_units", .array (units.map .ofText)),
    ("allowed_reference_times", .array (references.map .ofText))] hnames ?_
  intro f hf
  simp only [List.mem_cons, List.not_mem_nil, or_false] at hf
  rcases hf with rfl | rfl | rfl
  · exact .string text
  · exact hwords units
  · exact hwords references

/-- What follows the last marker of a prompt is one document, which is read as the text and the
words that the prompt was built from; what comes before are the instructions and a blank line. -/
theorem build_carries_input (text : String) (units references : List String) :
    let prompt := build text units references
    LastAt marker.toList prompt.toList (instructions ++ "\n\n").toList (inputOf prompt).toList ∧
      Json.read (inputOf prompt) = some (.object [("text", .ofText text),
        ("allowed_units", .array (units.map .ofText)),
        ("allowed_reference_times", .array (references.map .ofText))]) := by
  intro prompt
  have htextual := input_textual text units references
  have hmarker : marker.toList = "Input JSON:".toList ++ ['\n'] := by decide
  have hprompt : prompt.toList = (instructions ++ "\n\n").toList ++ marker.toList ++
      (input text units references).compact.toList := by
    simp only [prompt, build, String.toList_append]
  have hlast := lastAt_line (instructions ++ "\n\n").toList "Input JSON:".toList
    htextual.newline_notMem_compact
  rw [← hmarker, ← hprompt] at hlast
  have hinput : inputOf prompt = (input text units references).compact := by
    rw [inputOf, hlast.afterLast? (by decide)]
    exact String.ofList_toList
  refine ⟨hinput ▸ hlast, ?_⟩
  rw [hinput]
  exact htextual.read_compact (by decide)

end TimeWindow.Prompt
