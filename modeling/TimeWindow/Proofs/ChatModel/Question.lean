import TimeWindow.Proofs.Completion.Asking
import TimeWindow.ChatModel

/-!
What a chat model is asked. A template that is spelled from texts and named gaps is read as these,
brackets in the texts being doubled, and to fill its gaps is to put the value in as it stands. So a
prompt reaches the model unchanged, whatever brackets there are in it.
-/

namespace TimeWindow

namespace Template

/-- A name that a gap may have. -/
structure Plain (name : String) : Prop where
  special : ∀ c ∈ name.toList, c ∉ ['{', '}', '!', ':', '.', '[', ']']
  not_number : name = "" ∨ ∃ c ∈ name.toList, Text.isDigit c = false
  ne_forbidden : name ≠ forbiddenName

def doubled (cs : List Char) : List Char :=
  cs.flatMap fun c => if c = '{' ∨ c = '}' then [c, c] else [c]

/-- A template with a text before its gaps, and with a text after each of them. -/
def spelled (text : String) : List (String × String) → List Char
  | [] => doubled text.toList
  | (name, after) :: rest => doubled text.toList ++ '{' :: (name.toList ++ '}' :: spelled after rest)

def piecesOf (text : String) : List (String × String) → List Piece
  | [] => [.text text]
  | (name, after) :: rest => .text text :: .gap name "" :: piecesOf after rest

namespace Progress

variable {place next : Progress} {c : Char} {cs more : List Char} {done : List Piece}

theorem pieces_cons (h : place.step c = .ok (done, next)) :
    place.pieces (c :: more) = (next.pieces more).map (done ++ ·) := by
  rw [pieces, h]
  simp only [bind, Except.bind]
  cases next.pieces more <;> rfl

theorem pieces_cons_of_nil (h : place.step c = .ok ([], next)) :
    place.pieces (c :: more) = next.pieces more := by
  rw [pieces_cons h]
  cases next.pieces more <;> rfl

theorem pieces_doubled (kept : List Char) :
    (text kept).pieces (doubled cs ++ more) = (text (cs.reverse ++ kept)).pieces more := by
  induction cs generalizing kept with
  | nil => rfl
  | cons c cs ih =>
    have hcons : doubled (c :: cs) = (if c = '{' ∨ c = '}' then [c, c] else [c]) ++ doubled cs := rfl
    rw [hcons, List.reverse_cons, List.append_assoc, List.append_assoc, List.singleton_append, ← ih]
    by_cases hopening : c = '{'
    · subst hopening
      exact (pieces_cons_of_nil rfl).trans (pieces_cons_of_nil rfl)
    · by_cases hclosing : c = '}'
      · subst hclosing
        exact (pieces_cons_of_nil rfl).trans (pieces_cons_of_nil rfl)
      · rw [if_neg (not_or.2 ⟨hopening, hclosing⟩)]
        refine pieces_cons_of_nil ?_
        rw [step, if_neg hopening, if_neg hclosing]

theorem nameStep_of_plain {seen : List Char}
    (h : c ∉ ['{', '}', '!', ':', '.', '[', ']']) :
    nameStep seen false c = .ok ([], .name (c :: seen) false) := by
  simp only [List.mem_cons, List.not_mem_nil, or_false, not_or] at h
  simp [nameStep, h]

theorem pieces_name (seen : List Char)
    (h : ∀ c ∈ cs, c ∉ ['{', '}', '!', ':', '.', '[', ']']) :
    (name seen false).pieces (cs ++ '}' :: more) =
      ((text []).pieces more).map (.gap (backwards (cs.reverse ++ seen)) "" :: ·) := by
  induction cs generalizing seen with
  | nil =>
    have hstep : (name seen false).step '}' = .ok ([.gap (backwards seen) ""], text []) := rfl
    exact pieces_cons hstep
  | cons c cs ih =>
    obtain ⟨hc, hcs⟩ := List.forall_mem_cons.1 h
    rw [List.reverse_cons, List.append_assoc, List.singleton_append, ← ih _ hcs]
    exact pieces_cons_of_nil (nameStep_of_plain hc)

theorem pieces_gap (kept : List Char)
    (h : ∀ c ∈ cs, c ∉ ['{', '}', '!', ':', '.', '[', ']']) :
    (text kept).pieces ('{' :: (cs ++ '}' :: more)) =
      ((text []).pieces more).map
        (.text (backwards kept) :: .gap (backwards cs.reverse) "" :: ·) := by
  have hopening : (text kept).step '{' = .ok ([], opening kept) := rfl
  rw [pieces_cons_of_nil hopening]
  cases cs with
  | nil =>
    have hstep : (opening kept).step '}' =
        .ok ([.text (backwards kept), .gap "" ""], text []) := rfl
    exact pieces_cons hstep
  | cons c cs =>
    obtain ⟨hc, hcs⟩ := List.forall_mem_cons.1 h
    have hstep : (opening kept).step c = .ok ([.text (backwards kept)], .name [c] false) := by
      have hne : c ≠ '{' := by
        rintro rfl
        exact hc List.mem_cons_self
      rw [step, if_neg hne, nameStep_of_plain hc]
      rfl
    rw [List.cons_append, pieces_cons hstep, pieces_name _ hcs]
    cases (text []).pieces more with
    | error e => rfl
    | ok later => simp [Except.map]

theorem backwards_reverse (s : String) : backwards s.toList.reverse = s := by
  rw [backwards, List.reverse_reverse, String.ofList_toList]

theorem pieces_spelled (first : String) (rest : List (String × String))
    (h : ∀ gap ∈ rest, Plain gap.1) :
    (text []).pieces (spelled first rest) = .ok (piecesOf first rest) := by
  induction rest generalizing first with
  | nil =>
    rw [spelled, ← List.append_nil (doubled _), pieces_doubled, List.append_nil]
    exact congrArg (fun s => Except.ok [Piece.text s]) (backwards_reverse first)
  | cons gap rest ih =>
    obtain ⟨hgap, hrest⟩ := List.forall_mem_cons.1 h
    rw [spelled, pieces_doubled, List.append_nil, pieces_gap _ hgap.special, ih _ hrest,
      backwards_reverse, backwards_reverse]
    rfl

end Progress

theorem check_gap {name : String} (h : Plain name) : (Piece.gap name "").check = .ok () := by
  have hpath : name.toList.any (fun c => c = '.' ∨ c = '[' ∨ c = ']') = false := by
    rw [List.any_eq_false]
    intro c hc
    have hspecial := h.special c hc
    simp only [List.mem_cons, List.not_mem_nil, or_false, not_or] at hspecial
    simp [hspecial]
  have hnumber : (!name.isEmpty && name.toList.all Text.isDigit) = false := by
    rcases h.not_number with rfl | ⟨c, hc, hdigit⟩
    · rfl
    · rw [Bool.and_eq_false_iff]
      refine .inr (List.all_eq_false.2 ⟨c, hc, ?_⟩)
      rw [hdigit]
      exact Bool.false_ne_true
  rw [Piece.check, hpath, hnumber]
  rfl

theorem check_piecesOf (first : String) (rest : List (String × String))
    (h : ∀ gap ∈ rest, Plain gap.1) : (piecesOf first rest).forM Piece.check = .ok () := by
  induction rest generalizing first with
  | nil => rfl
  | cons gap rest ih =>
    obtain ⟨hgap, hrest⟩ := List.forall_mem_cons.1 h
    rw [piecesOf, List.forM_eq_forM, List.forM_cons, List.forM_cons, check_gap hgap]
    exact ih _ hrest

theorem mem_gapNames_iff {name : String} {pieces : List Piece} :
    name ∈ gapNames pieces ↔ ∃ format, .gap name format ∈ pieces := by
  rw [gapNames, List.mem_mergeSort, List.mem_eraseDups, List.mem_filterMap]
  constructor
  · rintro ⟨piece, hmem, h⟩
    cases piece with
    | text s => cases h
    | gap n format =>
      cases h
      exact ⟨format, hmem⟩
  · rintro ⟨format, hmem⟩
    exact ⟨_, hmem, rfl⟩

theorem gap_mem_piecesOf {name format first : String} {rest : List (String × String)}
    (h : .gap name format ∈ piecesOf first rest) : ∃ gap ∈ rest, gap.1 = name := by
  induction rest generalizing first with
  | nil => simp [piecesOf] at h
  | cons gap rest ih =>
    simp only [piecesOf, List.mem_cons, reduceCtorEq, false_or, Piece.gap.injEq] at h
    rcases h with ⟨rfl, -⟩ | h
    · exact ⟨gap, List.mem_cons_self, rfl⟩
    · obtain ⟨other, hmem, hname⟩ := ih h
      exact ⟨other, List.mem_cons_of_mem _ hmem, hname⟩

/-- A template is read as what it is spelled from. -/
theorem read_spelled (first : String) (rest : List (String × String))
    (h : ∀ gap ∈ rest, Plain gap.1) :
    read (String.ofList (spelled first rest)) = .ok (piecesOf first rest) := by
  have hallowed : forbiddenName ∉ gapNames (piecesOf first rest) := by
    intro hmem
    obtain ⟨format, hgap⟩ := mem_gapNames_iff.1 hmem
    obtain ⟨gap, hrest, hname⟩ := gap_mem_piecesOf hgap
    exact (h gap hrest).ne_forbidden hname
  rw [read, String.toList_ofList, Progress.pieces_spelled first rest h]
  simp only [bind, Except.bind]
  rw [check_piecesOf first rest h]
  simp only [if_neg hallowed]
  rfl

theorem fill_eq_ok_iff {name value filled : String} {pieces : List Piece} :
    fill name value pieces = .ok filled ↔
      ((∀ n ∈ gapNames pieces, n = name) ∧ name ≠ reservedName ∧
        (name = "" → gapNames pieces = [])) ∧
      filled = String.join (pieces.map (Piece.fill value)) := by
  have hmissing : (gapNames pieces).filter (· ≠ name) ≠ [] ↔ ¬∀ n ∈ gapNames pieces, n = name := by
    simp [List.filter_eq_nil_iff]
  have hunnamed : (name.isEmpty && !(gapNames pieces).isEmpty) = true ↔
      ¬(name = "" → gapNames pieces = []) := by
    simp [String.isEmpty_iff]
  unfold fill
  dsimp only
  split_ifs with hother hreserved hnone
  · exact iff_of_false nofun fun h => hmissing.1 hother h.1.1
  · exact iff_of_false nofun fun h => h.1.2.1 hreserved
  · exact iff_of_false nofun fun h => hunnamed.1 hnone h.1.2.2
  · rw [Except.ok.injEq]
    refine ⟨fun h => ⟨⟨?_, hreserved, ?_⟩, h.symm⟩, fun h => h.2.symm⟩
    · exact not_not.1 (mt hmissing.2 hother)
    · exact not_not.1 (mt hunnamed.2 hnone)

theorem fill_cases (name : String) (pieces : List Piece) :
    (∃ e, ∀ value, fill name value pieces = .error e) ∨
      ∀ value, fill name value pieces = .ok (String.join (pieces.map (Piece.fill value))) := by
  unfold fill
  dsimp only
  split_ifs
  · exact .inl ⟨_, fun _ => rfl⟩
  · exact .inl ⟨_, fun _ => rfl⟩
  · exact .inl ⟨_, fun _ => rfl⟩
  · exact .inr fun _ => rfl

end Template

namespace ChatModel

open Template (Piece Plain)

variable {config : Config} {env : Environment} {timeout : Option Int}

structure Config.Sound (config : Config) : Prop where
  plain : Plain config.inputKey
  ne_empty : config.inputKey ≠ ""
  ne_reserved : config.inputKey ≠ Template.reservedName

theorem plain_input : Plain "input" where
  special := by simp
  not_number := .inr ⟨'i', by simp, by decide +kernel⟩
  ne_forbidden := by decide

theorem sound_default : ({} : Config).Sound where
  plain := plain_input
  ne_empty := by simp
  ne_reserved := by simp [Template.reservedName]

theorem Config.Sound.template_eq (h : config.Sound) :
    config.template = .ok (Template.piecesOf "" [(config.inputKey, "")]) := by
  have hspelled : String.ofList (Template.spelled "" [(config.inputKey, "")]) =
      "\x7b" ++ config.inputKey ++ "\x7d" := by
    apply String.toList_injective
    simp [Template.spelled, Template.doubled]
  rw [Config.template, ← hspelled]
  exact Template.read_spelled _ _ (List.forall_mem_singleton.2 h.plain)

theorem converse_of_error {template : List Piece} {e : Template.Fault}
    (h : ∀ value, Template.fill config.inputKey value template = .error e) (prompts : List String)
    (replies : List Reply) :
    converse config template prompts replies = prompts.map fun _ => .refused e := by
  induction prompts with
  | nil => rfl
  | cons prompt rest ih => rw [converse, h, List.map_cons, ← ih]

theorem converse_of_ok {template : List Piece} (question : String → String)
    (h : ∀ value, Template.fill config.inputKey value template = .ok (question value))
    (prompts : List String) (replies : List Reply) :
    converse config template prompts replies =
      (prompts.zip (Completion.answers prompts.length replies)).map fun (prompt, reply) =>
        .answered (messages (question prompt)) reply := by
  induction prompts generalizing replies with
  | nil => rfl
  | cons prompt rest ih =>
    rw [converse, h, List.length_cons, Completion.answers_succ, List.zip_cons_cons,
      List.map_cons, ← ih]

/-- All prompts are refused for one fault and the model is not asked, or each is put into the gaps
of the template and has the reply of its turn. -/
theorem converse_cases (config : Config) (template : List Piece) (prompts : List String)
    (replies : List Reply) :
    (∃ e, converse config template prompts replies = prompts.map fun _ => .refused e) ∨
      converse config template prompts replies =
        (prompts.zip (Completion.answers prompts.length replies)).map fun (prompt, reply) =>
          .answered (messages (String.join (template.map (Piece.fill prompt)))) reply := by
  rcases Template.fill_cases config.inputKey template with ⟨e, herror⟩ | hok
  · exact .inl ⟨e, converse_of_error herror prompts replies⟩
  · exact .inr (converse_of_ok _ hok prompts replies)

/-- Each prompt is put as it stands, in the order in which they come, and has the reply of its turn.
-/
theorem converse_verbatim (h : config.Sound) (prompts : List String) (replies : List Reply) :
    ∃ template, config.template = .ok template ∧
      converse config template prompts replies =
        (prompts.zip (Completion.answers prompts.length replies)).map fun (prompt, reply) =>
          .answered (messages prompt) reply := by
  refine ⟨_, h.template_eq, converse_of_ok id (fun prompt => ?_) prompts replies⟩
  refine Template.fill_eq_ok_iff.2 ⟨⟨fun n hn => ?_, h.ne_reserved, fun hempty =>
    absurd hempty h.ne_empty⟩, ?_⟩
  · obtain ⟨format, hgap⟩ := Template.mem_gapNames_iff.1 hn
    obtain ⟨gap, hmem, hname⟩ := Template.gap_mem_piecesOf hgap
    rw [← hname, List.mem_singleton.1 hmem]
  · simp [Template.piecesOf, Template.Piece.fill, String.join]

def Lacking (env : Environment) (name : String) : Prop := (env.lookup name).getD "" = ""

instance (env : Environment) : DecidablePred (Lacking env) :=
  fun _ => inferInstanceAs (Decidable (_ = _))

theorem required_eq_ok_iff {name text : String} :
    required env name = .ok text ↔ env.lookup name = some text ∧ text ≠ "" := by
  rw [required]
  cases env.lookup name with
  | none => exact iff_of_false nofun fun h => nomatch h.1
  | some found =>
    dsimp only
    split_ifs with hempty
    · refine iff_of_false nofun ?_
      rintro ⟨⟨⟩, hne⟩
      exact hne (String.isEmpty_iff.1 hempty)
    · rw [Except.ok.injEq, Option.some.injEq]
      refine ⟨fun h => ⟨h, ?_⟩, And.left⟩
      rintro rfl
      exact hempty (String.isEmpty_iff.2 h)

theorem required_eq_error_iff {name other : String} :
    required env name = .error other ↔ Lacking env name ∧ other = name := by
  rw [required, Lacking]
  cases env.lookup name with
  | none => simp [eq_comm]
  | some found =>
    dsimp only [Option.getD_some]
    split_ifs with hempty
    · rw [Except.error.injEq, and_iff_right (String.isEmpty_iff.1 hempty), eq_comm]
    · exact iff_of_false nofun fun h => hempty (String.isEmpty_iff.2 h.1)

theorem connect_eq_ok_iff {c : Connection} :
    connect env config timeout = .ok c ↔
      (env.lookup config.modelKey = some c.model ∧ c.model ≠ "") ∧
      (env.lookup config.baseUrlKey = some c.baseUrl ∧ c.baseUrl ≠ "") ∧
      (env.lookup config.apiKeyKey = some c.apiKey ∧ c.apiKey ≠ "") ∧
      c.temperature = config.temperature ∧ c.timeout = timeout := by
  simp only [← required_eq_ok_iff, connect, Except.bind_eq_ok_iff]
  constructor
  · rintro ⟨model, hmodel, baseUrl, hbaseUrl, apiKey, hapiKey, h⟩
    cases h
    exact ⟨hmodel, hbaseUrl, hapiKey, rfl, rfl⟩
  · rintro ⟨hmodel, hbaseUrl, hapiKey, htemperature, htimeout⟩
    refine ⟨_, hmodel, _, hbaseUrl, _, hapiKey, ?_⟩
    rw [← htemperature, ← htimeout]
    rfl

theorem connect_eq_error_iff {name : String} :
    connect env config timeout = .error name ↔
      [config.modelKey, config.baseUrlKey, config.apiKeyKey].find? (Lacking env ·) =
        some name := by
  have hthere : ∀ {n}, ¬Lacking env n → ∃ text, required env n = .ok text := by
    intro n hn
    refine Except.not_exists_error_iff.1 ?_
    rintro ⟨other, hother⟩
    exact hn (required_eq_error_iff.1 hother).1
  rw [connect]
  by_cases hmodel : Lacking env config.modelKey
  · rw [required_eq_error_iff.2 ⟨hmodel, rfl⟩]
    simp [bind, Except.bind, hmodel]
  · obtain ⟨model, hmodel'⟩ := hthere hmodel
    rw [hmodel']
    by_cases hbaseUrl : Lacking env config.baseUrlKey
    · rw [required_eq_error_iff.2 ⟨hbaseUrl, rfl⟩]
      simp [bind, Except.bind, hmodel, hbaseUrl]
    · obtain ⟨baseUrl, hbaseUrl'⟩ := hthere hbaseUrl
      rw [hbaseUrl']
      by_cases hapiKey : Lacking env config.apiKeyKey
      · rw [required_eq_error_iff.2 ⟨hapiKey, rfl⟩]
        simp [bind, Except.bind, hmodel, hbaseUrl, hapiKey]
      · obtain ⟨apiKey, hapiKey'⟩ := hthere hapiKey
        rw [hapiKey']
        simp [bind, Except.bind, hmodel, hbaseUrl, hapiKey, pure, Except.pure]

end ChatModel

end TimeWindow
