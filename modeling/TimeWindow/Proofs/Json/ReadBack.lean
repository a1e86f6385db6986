import Mathlib.Data.List.Nodup
import TimeWindow.Json.Printer
import TimeWindow.Json.Reader

/-!
Reading back what has been written on one line. A written string is read back to its text, whatever
characters stand in it, and so is a document that is made up of strings, arrays and objects.
-/

namespace TimeWindow.Json

namespace Token

variable {c : Char} {cs rest : List Char} {token : Token}

theorem hexValue?_hex {n : Nat} (h : n < 0x20) : hexValue? (Text.Quoted.hex 4 n) = some n := by
  have hall : ∀ n ∈ List.range 0x20, hexValue? (Text.Quoted.hex 4 n) = some n := by decide
  exact hall n (List.mem_range.2 h)

theorem readUnits_hex {n : Nat} (h : n < 0x20) (units : List Nat) (rest : List Char) :
    readUnits units ('\\' :: 'u' :: Text.Quoted.hex 4 n ++ rest) =
      readUnits (n :: units) rest := by
  obtain ⟨a, b, c, d, hdigits⟩ : ∃ a b c d, Text.Quoted.hex 4 n = [a, b, c, d] :=
    ⟨_, _, _, _, rfl⟩
  have hvalue := hexValue?_hex h
  rw [hdigits] at hvalue ⊢
  simp only [List.cons_append, List.nil_append, readUnits]
  rw [hvalue, Option.bind_some]

theorem readUnits_plain (hquote : c ≠ '"') (hslash : c ≠ '\\') (hcontrol : ¬c.toNat < 0x20)
    (units : List Nat) (rest : List Char) :
    readUnits units (c :: rest) = readUnits (c.toNat :: units) rest := by
  rw [readUnits]
  · rw [if_neg hcontrol]
  · exact hquote
  · exact fun _ _ _ _ _ h => absurd h hslash
  · exact fun _ _ h => absurd h hslash

theorem readUnits_escapeChar (units : List Nat) (c : Char) (rest : List Char) :
    readUnits units (escapeChar c ++ rest) = readUnits (c.toNat :: units) rest := by
  by_cases hquote : c = '"'
  · subst hquote
    rfl
  by_cases hslash : c = '\\'
  · subst hslash
    rfl
  by_cases hline : c = '\n'
  · subst hline
    rfl
  by_cases hreturn : c = '\r'
  · subst hreturn
    rfl
  by_cases htab : c = '\t'
  · subst htab
    rfl
  by_cases hback : c = '\x08'
  · subst hback
    rfl
  by_cases hfeed : c = '\x0C'
  · subst hfeed
    rfl
  simp only [escapeChar, hquote, hslash, hline, hreturn, htab, hback, hfeed, or_self, if_false]
  by_cases hcontrol : c.toNat < 0x20
  · rw [if_pos hcontrol]
    exact readUnits_hex hcontrol units rest
  · rw [if_neg hcontrol]
    exact readUnits_plain hquote hslash hcontrol units rest

theorem readUnits_escaped (cs : List Char) (units : List Nat) (rest : List Char) :
    readUnits units (cs.flatMap escapeChar ++ '"' :: rest) =
      some (units.reverse ++ cs.map Char.toNat, rest) := by
  induction cs generalizing units with
  | nil => simp [readUnits]
  | cons c cs ih =>
    rw [List.flatMap_cons, List.append_assoc, readUnits_escapeChar, ih]
    simp

theorem joinUnits_of_valid {units : List Nat} (h : ∀ n ∈ units, n.isValidChar) :
    joinUnits units = units := by
  fun_induction joinUnits units with
  | case1 => rfl
  | case2 n => rfl
  | case3 high low rest hhalves ih =>
    have hhigh := h high List.mem_cons_self
    simp only [isHighHalf, Bool.and_eq_true, decide_eq_true_eq, Nat.isValidChar] at hhalves hhigh
    omega
  | case4 high low rest hhalves ih =>
    rw [ih fun n hn => h n (List.mem_cons_of_mem high hn)]

theorem next_stringText (s : String) (rest : List Char) :
    next ((stringText (.text s)).toList ++ rest) = some (.scalar (.string (.text s)), rest) := by
  have hvalid : ∀ n ∈ s.toList.map Char.toNat, n.isValidChar := by
    intro n hn
    obtain ⟨c, -, rfl⟩ := List.mem_map.1 hn
    exact c.valid
  have hunits := readUnits_escaped s.toList [] rest
  simp only [stringText, String.toList_ofList, List.cons_append, List.append_assoc,
    List.nil_append, next]
  rw [hunits, Option.map_some, List.reverse_nil, List.nil_append, joinUnits_of_valid hvalid,
    Literal.ofPoints_toNat]

theorem all_eq (cs : List Char) : all cs =
    match cs.dropWhile isSpace with
    | [] => some []
    | c :: rest => (next (c :: rest)).bind fun (token, rest) => (all rest).map (token :: ·) := by
  rw [all]
  split
  · rename_i h
    rw [h]
  · rename_i h
    split
    · rename_i hnext
      simp only [h, hnext, Option.bind_none]
    · rename_i hnext
      simp only [h, hnext, Option.bind_some]

theorem all_of_next (hc : isSpace c = false) (h : next (c :: cs) = some (token, rest)) :
    all (c :: cs) = (all rest).map (token :: ·) := by
  rw [all_eq, List.dropWhile_cons_of_neg (by simp [hc])]
  dsimp only
  rw [h]
  rfl

theorem all_space (hc : isSpace c = true) : all (c :: cs) = all cs := by
  rw [all_eq, List.dropWhile_cons_of_pos hc, ← all_eq]

theorem all_stringText (s : String) (rest : List Char) :
    all ((stringText (.text s)).toList ++ rest) =
      (all rest).map (.scalar (.string (.text s)) :: ·) := by
  obtain ⟨cs, hcs⟩ : ∃ cs, (stringText (.text s)).toList ++ rest = '"' :: cs := by
    simp [stringText]
  have hnext := next_stringText s rest
  rw [hcs] at hnext ⊢
  exact all_of_next (by decide) hnext

end Token

theorem writeItems_eq (layout : Layout) (items : List Value) :
    writeItems layout items = items.map (·.write layout) := by
  induction items with
  | nil => rfl
  | cons v rest ih => rw [writeItems, ih, List.map_cons]

theorem writeFields_eq (layout : Layout) (fields : Fields) : writeFields layout fields =
    fields.map fun f => stringText f.1 ++ ": " ++ f.2.write layout := by
  induction fields with
  | nil => rfl
  | cons f rest ih => rw [writeFields, ih, List.map_cons]

theorem enclose_line (first last : String) (items : List String) :
    Layout.line.enclose first last items = first ++ ", ".intercalate items ++ last := by
  rw [Layout.enclose]
  split
  · rename_i h
    rw [List.isEmpty_iff.1 h]
    simp
  · simp [Layout.inner, Layout.lineBreak, Layout.separator]

theorem toList_write_array (items : List Value) : ((Value.array items).write .line).toList =
    '[' :: ((", ".intercalate (items.map (·.write .line))).toList ++ [']']) := by
  rw [Value.write, Layout.inner, writeItems_eq, enclose_line]
  simp

theorem toList_write_object (fields : Fields) : ((Value.object fields).write .line).toList =
    '\x7b' :: ((", ".intercalate
      (fields.map fun f => stringText f.1 ++ ": " ++ f.2.write .line)).toList ++ ['\x7d']) := by
  rw [Value.write, Layout.inner, writeFields_eq, enclose_line]
  simp

/-- The tokens that characters are cut into, whatever follows, and what they are read as from a
state on. They close `inside` containers and have open `levels` more of them at most. -/
structure ReadAs (start : List Frame → Expecting) (inside : Nat) (cs : List Char) (v : Value)
    (levels : Nat) (tokens : List Token) : Prop where
  cut : ∀ rest, Token.all (cs ++ rest) = (Token.all rest).map (tokens ++ ·)
  built : ∀ stack, tokens.foldlM Expecting.step (start stack) = some (.separator v stack)
  nested : ∀ depth rest, deepest (depth + inside) (tokens ++ rest) ≤
    max (depth + inside + levels) (deepest depth rest)

namespace ReadAs

variable {cs : List Char} {v : Value} {levels : Nat} {tokens : List Token}

theorem string (s : String) (levels : Nat) :
    ReadAs .value 0 (stringText (.text s)).toList (.ofText s) levels [.scalar (.ofText s)] where
  cut := Token.all_stringText s
  built _ := rfl
  nested _ _ := Nat.le_max_right _ _

theorem firstItem (h : ReadAs (fun stack => .value (.array [] :: stack)) 1 cs v levels tokens) :
    ReadAs .firstItem 1 cs v levels tokens where
  cut := h.cut
  built stack := by
    have hbuilt := h.built stack
    cases tokens with
    | nil => cases hbuilt
    | cons token later =>
      cases token with
      | closeArray => cases hbuilt
      | _ => exact hbuilt
  nested := h.nested

theorem firstName (h : ReadAs (.nextName []) 1 cs v levels tokens) :
    ReadAs .firstName 1 cs v levels tokens where
  cut := h.cut
  built stack := by
    have hbuilt := h.built stack
    cases tokens with
    | nil => cases hbuilt
    | cons token later =>
      cases token with
      | scalar v =>
        cases v with
        | string name => exact hbuilt
        | _ => cases hbuilt
      | _ => cases hbuilt
  nested := h.nested

theorem opened {start : List Frame → Expecting} {mark : Char} {token : Token}
    (h : ReadAs start 1 cs v levels tokens) (hmark : Token.isSpace mark = false)
    (hnext : ∀ rest, Token.next (mark :: rest) = some (token, rest))
    (hstep : ∀ stack, Expecting.step (.value stack) token = some (start stack))
    (hdeepest : ∀ depth rest, deepest depth (token :: rest) = deepest (depth + 1) rest) :
    ReadAs .value 0 (mark :: cs) v (levels + 1) (token :: tokens) where
  cut rest := by
    rw [List.cons_append, Token.all_of_next hmark (hnext _), h.cut, Option.map_map]
    rfl
  built stack := by
    rw [List.foldlM_cons, hstep]
    exact h.built stack
  nested depth rest := by
    have := h.nested depth rest
    rw [List.cons_append, hdeepest, Nat.add_zero]
    omega

theorem closing {start : List Frame → Expecting} {token : Token} (mark : Char)
    (hmark : Token.isSpace mark = false)
    (hnext : ∀ rest, Token.next (mark :: rest) = some (token, rest))
    (hstep : ∀ stack, Expecting.step (start stack) token = some (.separator v stack))
    (hdeepest : ∀ depth rest,
      deepest (depth + 1) (token :: rest) = max (depth + 1) (deepest depth rest)) :
    ReadAs start 1 [mark] v levels [token] where
  cut rest := Token.all_of_next hmark (hnext rest)
  built stack := (bind_pure _).trans (hstep stack)
  nested depth rest := by
    rw [List.singleton_append, hdeepest]
    omega

variable {cs' : List Char} {w : Value} {tokens' : List Token}

theorem followed (frame : Frame) (h : ReadAs .value 0 cs v levels tokens)
    (hrest : ReadAs (fun stack => .separator v (frame :: stack)) 1 cs' w levels tokens') :
    ReadAs (fun stack => .value (frame :: stack)) 1 (cs ++ cs') w levels (tokens ++ tokens') where
  cut rest := by
    rw [List.append_assoc, h.cut, hrest.cut]
    simp [Function.comp_def]
  built stack := by
    rw [List.foldlM_append, h.built]
    exact hrest.built stack
  nested depth rest := by
    have hfirst := h.nested (depth + 1) (tokens' ++ rest)
    have hlater := hrest.nested depth rest
    rw [Nat.add_zero] at hfirst
    rw [List.append_assoc]
    omega

theorem comma {start : List Frame → Expecting} {frame : Frame}
    (hstep : ∀ stack, Expecting.step (.separator v (frame :: stack)) .comma = some (start stack))
    (h : ReadAs start 1 cs w levels tokens) :
    ReadAs (fun stack => .separator v (frame :: stack)) 1 (',' :: ' ' :: cs) w levels
      (.comma :: tokens) where
  cut rest := by
    rw [List.cons_append, List.cons_append, Token.all_of_next (by decide) rfl,
      Token.all_space (by decide), h.cut, Option.map_map]
    rfl
  built stack := by
    rw [List.foldlM_cons, hstep]
    exact h.built stack
  nested := h.nested

theorem named {fields : Fields} {name : String}
    (h : ReadAs (fun stack => .value (.object fields (.text name) :: stack)) 1 cs v levels tokens) :
    ReadAs (.nextName fields) 1 ((stringText (.text name)).toList ++ ':' :: ' ' :: cs) v levels
      (.scalar (.ofText name) :: .colon :: tokens) where
  cut rest := by
    rw [List.append_assoc, Token.all_stringText, List.cons_append, List.cons_append,
      Token.all_of_next (by decide) rfl, Token.all_space (by decide), h.cut]
    simp [Function.comp_def, Value.ofText]
  built := h.built
  nested := h.nested

theorem exists_items (v : Value) (items done : List Value)
    (h : ∀ w ∈ v :: items, ∃ tokens, ReadAs .value 0 (w.write .line).toList w levels tokens) :
    ∃ tokens, ReadAs (fun stack => .value (.array done :: stack)) 1
      ((", ".intercalate ((v :: items).map (·.write .line))).toList ++ [']'])
      (.array (done.reverse ++ v :: items)) levels tokens := by
  induction items generalizing v done with
  | nil =>
    obtain ⟨tokens, hv⟩ := h v List.mem_cons_self
    have hclosing := hv.followed (.array done)
      (closing ']' (by decide) (fun _ => rfl) (fun _ => rfl) (fun _ _ => rfl))
    rw [List.reverse_cons] at hclosing
    exact ⟨_, hclosing⟩
  | cons w items ih =>
    obtain ⟨tokens, hv⟩ := h v List.mem_cons_self
    obtain ⟨later, hlater⟩ := ih w (v :: done) fun u hu => h u (List.mem_cons_of_mem v hu)
    have hcomma := hv.followed (.array done) (comma (fun _ => rfl) hlater)
    refine ⟨tokens ++ .comma :: later, ?_⟩
    simpa using hcomma

end ReadAs

def Fields.ofTexts (fields : List (String × Value)) : Fields :=
  fields.map fun f => (.text f.1, f.2)

theorem Fields.insert_of_notMem {fields : Fields} {name : Literal}
    (h : name ∉ fields.map Prod.fst) (v : Value) :
    fields.insert name v = fields ++ [(name, v)] := by
  induction fields with
  | nil => rfl
  | cons field rest ih =>
    rw [List.map_cons, List.mem_cons, not_or] at h
    rw [insert, if_neg (Ne.symm h.1), ih h.2, List.cons_append]

theorem Fields.insert_of_nodup {done rest : Fields} {name : Literal} {v : Value}
    (h : ((done ++ (name, v) :: rest).map Prod.fst).Nodup) :
    done.insert name v = done ++ [(name, v)] := by
  rw [List.map_append, List.map_cons] at h
  exact insert_of_notMem (fun hmem => List.disjoint_of_nodup_append h hmem List.mem_cons_self) v

namespace ReadAs

variable {levels : Nat}

theorem exists_fields (f : String × Value) (fields : List (String × Value)) (done : Fields)
    (names : ((done ++ Fields.ofTexts (f :: fields)).map Prod.fst).Nodup)
    (h : ∀ g ∈ f :: fields, ∃ tokens,
      ReadAs .value 0 (g.2.write .line).toList g.2 levels tokens) :
    ∃ tokens, ReadAs (.nextName done) 1
      ((", ".intercalate ((Fields.ofTexts (f :: fields)).map fun g =>
        stringText g.1 ++ ": " ++ g.2.write .line)).toList ++ ['\x7d'])
      (.object (done ++ Fields.ofTexts (f :: fields))) levels tokens := by
  have hdone := Fields.insert_of_nodup names
  obtain ⟨tokens, hv⟩ := h f List.mem_cons_self
  induction fields generalizing f done tokens with
  | nil =>
    have hclosing := hv.followed (.object done (.text f.1))
      (closing '\x7d' (by decide) (fun _ => rfl) (fun _ => rfl) (fun _ _ => rfl))
    rw [hdone] at hclosing
    refine ⟨.scalar (.ofText f.1) :: .colon :: (tokens ++ [.closeObject]), ?_⟩
    simpa [Fields.ofTexts] using hclosing.named
  | cons g fields ih =>
    have hrest : ∀ u ∈ g :: fields, ∃ tokens,
        ReadAs .value 0 (u.2.write .line).toList u.2 levels tokens :=
      fun u hu => h u (List.mem_cons_of_mem f hu)
    have hnames : ((done.insert (.text f.1) f.2 ++ Fields.ofTexts (g :: fields)).map
        Prod.fst).Nodup := by
      rw [hdone]
      simpa [Fields.ofTexts] using names
    obtain ⟨first, hg⟩ := hrest g List.mem_cons_self
    obtain ⟨later, hlater⟩ := ih g _ hnames hrest (Fields.insert_of_nodup hnames) first hg
    have hcomma := hv.followed (.object done (.text f.1)) (comma (fun _ => rfl) hlater)
    rw [hdone] at hcomma
    refine ⟨.scalar (.ofText f.1) :: .colon :: (tokens ++ .comma :: later), ?_⟩
    simpa [Fields.ofTexts] using hcomma.named

end ReadAs

inductive Textual : Nat → Value → Prop
  | string {levels : Nat} (s : String) : Textual levels (.ofText s)
  | array {levels : Nat} {items : List Value} (h : ∀ v ∈ items, Textual levels v) :
      Textual (levels + 1) (.array items)
  | object {levels : Nat} {fields : List (String × Value)} (names : (fields.map Prod.fst).Nodup)
      (h : ∀ f ∈ fields, Textual levels f.2) :
      Textual (levels + 1) (.object (Fields.ofTexts fields))

namespace Textual

variable {levels : Nat} {v : Value}

theorem exists_readAs (h : Textual levels v) :
    ∃ tokens, ReadAs .value 0 (v.write .line).toList v levels tokens := by
  induction h with
  | string s => exact ⟨_, .string s _⟩
  | @array levels items _ ih =>
    rw [toList_write_array]
    obtain ⟨tokens, hitems⟩ : ∃ tokens, ReadAs .firstItem 1
        ((", ".intercalate (items.map (·.write .line))).toList ++ [']']) (.array items) levels
        tokens := by
      cases items with
      | nil =>
        exact ⟨_, .closing _ (by decide) (fun _ => rfl) (fun _ => rfl) (fun _ _ => rfl)⟩
      | cons v items =>
        obtain ⟨tokens, h⟩ := ReadAs.exists_items v items [] ih
        exact ⟨tokens, h.firstItem⟩
    exact ⟨_, hitems.opened (by decide) (fun _ => rfl) (fun _ => rfl) (fun _ _ => rfl)⟩
  | @object levels fields names _ ih =>
    rw [toList_write_object]
    obtain ⟨tokens, hfields⟩ : ∃ tokens, ReadAs .firstName 1
        ((", ".intercalate ((Fields.ofTexts fields).map fun g =>
          stringText g.1 ++ ": " ++ g.2.write .line)).toList ++ ['\x7d'])
        (.object (Fields.ofTexts fields)) levels tokens := by
      cases fields with
      | nil =>
        exact ⟨_, .closing _ (by decide) (fun _ => rfl) (fun _ => rfl) (fun _ _ => rfl)⟩
      | cons f fields =>
        have hnames : (([] ++ Fields.ofTexts (f :: fields)).map Prod.fst).Nodup := by
          have hinjective : Function.Injective Literal.text := fun _ _ h => Literal.text.inj h
          simpa [Fields.ofTexts, Function.comp_def] using names.map hinjective
        obtain ⟨tokens, h⟩ := ReadAs.exists_fields f fields [] hnames ih
        exact ⟨tokens, h.firstName⟩
    exact ⟨_, hfields.opened (by decide) (fun _ => rfl) (fun _ => rfl) (fun _ _ => rfl)⟩

/-- A document that is made up of strings, arrays and objects is read back from one line. -/
theorem read_compact (h : Textual levels v) (hlevels : levels ≤ maxDepth) :
    read v.compact = some v := by
  obtain ⟨tokens, hread⟩ := h.exists_readAs
  have hcut := hread.cut []
  have hend : Token.all [] = some [] := by rw [Token.all_eq]; rfl
  have hnested := hread.nested 0 []
  rw [List.append_nil, hend, Option.map_some, List.append_nil] at hcut
  rw [List.append_nil] at hnested
  change _ ≤ max (0 + 0 + levels) 0 at hnested
  rw [read, Value.compact, hcut, Option.bind_some, if_pos, ofTokens, hread.built]
  exact Nat.le_trans hnested (by omega)

theorem newline_notMem_stringText (s : String) : '\n' ∉ (stringText (.text s)).toList := by
  have hchars : ∀ c : Char, '\n' ∉ escapeChar c := by
    intro c
    have hhex : ∀ n ∈ List.range 0x20, '\n' ∉ '\\' :: 'u' :: Text.Quoted.hex 4 n := by decide
    unfold escapeChar
    split_ifs with hmark hline hreturn htab hback hfeed hcontrol
    · rcases hmark with rfl | rfl <;> decide
    · decide
    · decide
    · decide
    · decide
    · decide
    · exact hhex _ (List.mem_range.2 hcontrol)
    · exact fun h => hline (List.mem_singleton.1 h).symm
  simp [stringText, hchars]

theorem newline_notMem_intercalate {texts : List String} (h : ∀ t ∈ texts, '\n' ∉ t.toList) :
    '\n' ∉ (", ".intercalate texts).toList := by
  induction texts with
  | nil => simp
  | cons t rest ih =>
    cases rest with
    | nil => simpa using h
    | cons u rest =>
      have ht := h t List.mem_cons_self
      have hrest := ih fun u hu => h u (List.mem_cons_of_mem t hu)
      rw [String.intercalate_cons_cons]
      simp only [String.toList_append, List.mem_append, not_or]
      exact ⟨⟨ht, by decide⟩, hrest⟩

theorem newline_notMem_compact (h : Textual levels v) : '\n' ∉ v.compact.toList := by
  rw [Value.compact]
  induction h with
  | string s => exact newline_notMem_stringText s
  | @array levels items _ ih =>
    have hitems : '\n' ∉ (", ".intercalate (items.map (·.write .line))).toList :=
      newline_notMem_intercalate (by simpa using ih)
    rw [toList_write_array]
    simpa using hitems
  | @object levels fields _ _ ih =>
    have hfields : '\n' ∉ (", ".intercalate ((Fields.ofTexts fields).map fun g =>
        stringText g.1 ++ ": " ++ g.2.write .line)).toList := by
      apply newline_notMem_intercalate
      intro t ht
      obtain ⟨g, hg, rfl⟩ := List.mem_map.1 ht
      obtain ⟨f, hf, rfl⟩ := List.mem_map.1 hg
      simp [newline_notMem_stringText, ih f hf]
    rw [toList_write_object]
    simpa using hfields

end Textual

end TimeWindow.Json
