import TimeWindow.Phrase
import TimeWindow.Proofs.Text.Numeral

/-!
The scanners of the pattern for looking back, each with what it takes. A scanner goes as far as it
can and never goes back; as blanks, digits and letters are different characters and no word for a
unit is another one with an s, what it takes is the only thing that could have been taken.
-/

namespace TimeWindow.Phrase

open Text (Ranges isBlank isDecimal isWord boundaryAfter)

structure Run (member : Char → Bool) (cs : List Char) : Prop where
  ne_nil : cs ≠ []
  mem : ∀ c ∈ cs, member c = true

def Spells (word : String) (cs : List Char) : Prop :=
  cs.map foldLetter = word.toList

instance (word : String) (cs : List Char) : Decidable (Spells word cs) :=
  inferInstanceAs (Decidable (_ = _))

def letters : Ranges :=
  [(0x41, 0x5A), (0x61, 0x7A), (0x130, 0x131), (0x17F, 0x17F), (0x212A, 0x212A)]

variable {c : Char} {cs run rest taken after : List Char} {word : String}

theorem covers_letters (h : (foldLetter c).isLower = true) : letters.covers c = true := by
  rw [foldLetter] at h
  split at h
  · rename_i hi
    rcases hi with rfl | rfl <;> decide
  · split at h
    · rename_i hs
      subst hs
      decide
    · split at h
      · rename_i hk
        subst hk
        decide
      · rw [Char.isLower_toLower_eq_isAlpha, Char.isAlpha, Bool.or_eq_true, Char.isUpper,
          Char.isLower] at h
        simp only [letters, Ranges.covers, List.any_cons, Bool.or_eq_true, Bool.and_eq_true,
          decide_eq_true_eq] at h ⊢
        rcases h with h | h
        · exact .inl h
        · exact .inr (.inl h)

theorem isWord_of_letter (h : letters.covers c = true) : isWord c = true := by
  have hall : ∀ r ∈ letters, ∃ s ∈ Text.alphanumeric, s.1 ≤ r.1 ∧ r.2 ≤ s.2 := by
    decide +kernel
  obtain ⟨r, hr, hlow, hhigh⟩ := (Ranges.covers_iff letters c).1 h
  obtain ⟨s, hs, hle, hge⟩ := hall r hr
  rw [isWord, Bool.or_eq_true]
  exact .inr ((Ranges.covers_iff _ c).2 ⟨s, hs, hle.trans hlow, hhigh.trans hge⟩)

theorem isBlank_of_letter (h : letters.covers c = true) : isBlank c = false :=
  Ranges.covers_eq_false (by decide) h

theorem isDecimal_of_letter (h : letters.covers c = true) : isDecimal c = false := by
  rw [← Bool.not_eq_true]
  intro hdecimal
  have hnot := Ranges.covers_eq_false (a := letters) (b := Text.decimals) (by decide) h
  exact Bool.noConfusion (hnot.symm.trans (Text.covers_of_isDecimal hdecimal))

theorem isBlank_of_isDecimal (h : isDecimal c = true) : isBlank c = false :=
  Ranges.covers_eq_false (by decide) (Text.covers_of_isDecimal h)

theorem isDecimal_of_isBlank (h : isBlank c = true) : isDecimal c = false := by
  rw [← Bool.not_eq_true]
  intro hdecimal
  exact Bool.noConfusion ((isBlank_of_isDecimal hdecimal).symm.trans h)

theorem Spells.covers_letters (h : Spells word cs) (hword : word.toList.all Char.isLower = true) :
    ∀ c ∈ cs, letters.covers c = true := by
  intro c hc
  apply Phrase.covers_letters
  apply List.all_eq_true.1 hword
  rw [← h]
  exact List.mem_map_of_mem hc

theorem all_isLower_of_mem {entry : String × TimeUnit} (h : entry ∈ unitWords) :
    entry.1.toList.all Char.isLower = true := by
  have hall : ∀ entry ∈ unitWords, entry.1.toList.all Char.isLower = true := by decide
  exact hall entry h

theorem Spells.run_letters {entry : String × TimeUnit} (hmem : entry ∈ unitWords)
    (h : Spells entry.1 cs) : Run letters.covers cs := by
  have hall : ∀ entry ∈ unitWords, entry.1.toList ≠ [] := by decide
  refine ⟨fun hnil => ?_, h.covers_letters (all_isLower_of_mem hmem)⟩
  rw [Spells, hnil, List.map_nil] at h
  exact hall entry hmem h.symm

theorem Run.head_eq {member : Char → Bool} (h : Run member run) :
    ∀ c ∈ (run ++ rest).head?, member c = true := by
  cases hrun : run with
  | nil => exact absurd hrun h.ne_nil
  | cons b tail =>
    rintro c ⟨⟩
    exact h.mem b (hrun ▸ List.mem_cons_self)

theorem takeWhile_run {member : Char → Bool} (h : ∀ c ∈ run, member c = true)
    (hrest : ∀ c ∈ rest.head?, member c = false) : (run ++ rest).takeWhile member = run := by
  rw [List.takeWhile_append_of_pos h]
  cases rest with
  | nil => exact List.append_nil run
  | cons c rest =>
    rw [List.takeWhile_cons_of_neg (by simp [hrest c rfl]), List.append_nil]

theorem takeRun_eq_some_iff {member : Char → Bool} : takeRun member cs = some (run, rest) ↔
    cs = run ++ rest ∧ Run member run ∧ ∀ c ∈ rest.head?, member c = false := by
  rw [takeRun]
  constructor
  · intro h
    split at h
    · cases h
    · rename_i hne
      cases h
      refine ⟨List.takeWhile_append_dropWhile.symm, ⟨?_, fun c hc => List.mem_takeWhile_imp hc⟩, ?_⟩
      · exact fun hnil => hne (List.isEmpty_iff.2 hnil)
      · intro c hc
        have := List.head?_dropWhile_not member cs
        rwa [hc] at this
  · rintro ⟨rfl, hrun, hrest⟩
    have htake := takeWhile_run hrun.mem hrest
    have hdrop : (run ++ rest).dropWhile member = rest := by
      have hparts := List.takeWhile_append_dropWhile (p := member) (l := run ++ rest)
      rw [htake] at hparts
      exact List.append_cancel_left hparts
    rw [htake, hdrop, if_neg fun hempty => hrun.ne_nil (List.isEmpty_iff.1 hempty)]

theorem takeRun_eq_none {member : Char → Bool} (h : ∀ c ∈ cs.head?, member c = false) :
    takeRun member cs = none := by
  have htake : cs.takeWhile member = [] := takeWhile_run (List.forall_mem_nil _) h
  rw [takeRun, htake]
  rfl

theorem takeWord_eq_some_iff :
    takeWord word cs = some (taken, rest) ↔ cs = taken ++ rest ∧ Spells word taken := by
  rw [takeWord]
  constructor
  · intro h
    split at h
    · rename_i hword
      cases h
      exact ⟨(List.take_append_drop _ cs).symm, hword⟩
    · cases h
  · rintro ⟨rfl, h⟩
    have hlength : taken.length = word.toList.length := by
      rw [← h, List.length_map]
    rw [List.take_left' hlength, List.drop_left' hlength]
    exact if_pos h

theorem takeWord_eq_none {other : String} (h : Spells other taken) (hne : word ≠ other)
    (hlength : word.toList.length = other.toList.length) : takeWord word (taken ++ rest) = none := by
  rw [Option.eq_none_iff_forall_ne_some]
  rintro ⟨taken', rest'⟩ htaken
  obtain ⟨hsame, hword⟩ := takeWord_eq_some_iff.1 htaken
  have hsize : taken.length = taken'.length := by
    rw [← List.length_map foldLetter, h, ← hlength, ← hword, List.length_map]
  rw [Spells, ← (List.append_inj hsame hsize).1, h] at hword
  exact hne (String.toList_injective hword).symm

theorem takeOpening_eq_some_iff {opening : List Char} : takeOpening cs = some (opening, rest) ↔
    ∃ word blanks, opening = word ++ blanks ∧ cs = word ++ (blanks ++ rest) ∧
      (Spells "last" word ∨ Spells "past" word) ∧ Run isBlank blanks ∧
        ∀ c ∈ rest.head?, isBlank c = false := by
  constructor
  · intro h
    obtain ⟨⟨word, tail⟩, hword, h⟩ := Option.bind_eq_some_iff.1 h
    obtain ⟨⟨blanks, tail'⟩, hblanks, h⟩ := Option.bind_eq_some_iff.1 h
    cases h
    obtain ⟨rfl, hrun, hrest⟩ := takeRun_eq_some_iff.1 hblanks
    rcases Option.or_eq_some_iff.1 hword with hword | ⟨-, hword⟩
    · obtain ⟨rfl, hspells⟩ := takeWord_eq_some_iff.1 hword
      exact ⟨word, blanks, rfl, rfl, .inl hspells, hrun, hrest⟩
    · obtain ⟨rfl, hspells⟩ := takeWord_eq_some_iff.1 hword
      exact ⟨word, blanks, rfl, rfl, .inr hspells, hrun, hrest⟩
  · rintro ⟨word, blanks, rfl, rfl, hspells, hrun, hrest⟩
    have hword : (takeWord "last" (word ++ (blanks ++ rest))).or
        (takeWord "past" (word ++ (blanks ++ rest))) = some (word, blanks ++ rest) := by
      rw [Option.or_eq_some_iff]
      rcases hspells with hspells | hspells
      · exact .inl (takeWord_eq_some_iff.2 ⟨rfl, hspells⟩)
      · exact .inr ⟨takeWord_eq_none hspells (by decide) rfl, takeWord_eq_some_iff.2 ⟨rfl, hspells⟩⟩
    have hblanks := takeRun_eq_some_iff.2 ⟨rfl, hrun, hrest⟩
    refine Option.bind_eq_some_iff.2 ⟨(word, blanks ++ rest), hword, ?_⟩
    exact Option.bind_eq_some_iff.2 ⟨(blanks, rest), hblanks, rfl⟩

theorem takeAmount_eq_some_iff {digits blanks : List Char} :
    takeAmount cs = some ((digits, blanks), rest) ↔ cs = digits ++ (blanks ++ rest) ∧
      Run isDecimal digits ∧ Run isBlank blanks ∧ ∀ c ∈ rest.head?, isBlank c = false := by
  constructor
  · intro h
    obtain ⟨⟨run, tail⟩, hdigits, h⟩ := Option.bind_eq_some_iff.1 h
    obtain ⟨⟨run', tail'⟩, hblanks, h⟩ := Option.bind_eq_some_iff.1 h
    cases h
    obtain ⟨rfl, hrun', hrest⟩ := takeRun_eq_some_iff.1 hblanks
    obtain ⟨rfl, hrun, -⟩ := takeRun_eq_some_iff.1 hdigits
    exact ⟨rfl, hrun, hrun', hrest⟩
  · rintro ⟨rfl, hrun, hrun', hrest⟩
    have hhead : ∀ c ∈ (blanks ++ rest).head?, isDecimal c = false :=
      fun c hc => isDecimal_of_isBlank (hrun'.head_eq c hc)
    have hdigits := takeRun_eq_some_iff.2 ⟨rfl, hrun, hhead⟩
    have hblanks := takeRun_eq_some_iff.2 ⟨rfl, hrun', hrest⟩
    refine Option.bind_eq_some_iff.2 ⟨(digits, blanks ++ rest), hdigits, ?_⟩
    exact Option.bind_eq_some_iff.2 ⟨(blanks, rest), hblanks, rfl⟩

theorem takeAmount_eq_none (h : ∀ c ∈ cs.head?, isDecimal c = false) : takeAmount cs = none := by
  rw [takeAmount, takeRun_eq_none h]
  rfl

variable {unit plural : List Char}

structure Ending (word : String) (cs unit plural after : List Char) : Prop where
  text_eq : cs = unit ++ (plural ++ after)
  unit : Spells word unit
  plural : plural = [] ∨ Spells "s" plural
  ends : boundaryAfter after = true

theorem isWord_head_of_boundaryAfter (h : boundaryAfter after = true) :
    ∀ c ∈ after.head?, isWord c = false := by
  cases after with
  | nil => exact fun c hc => nomatch hc
  | cons b tail =>
    rintro c ⟨⟩
    rw [boundaryAfter] at h
    simpa using h

theorem takeWord_s_eq_none (h : boundaryAfter after = true) : takeWord "s" after = none := by
  rw [Option.eq_none_iff_forall_ne_some]
  rintro ⟨taken, rest⟩ htaken
  obtain ⟨rfl, hspells⟩ := takeWord_eq_some_iff.1 htaken
  cases htaken : taken with
  | nil =>
    rw [htaken] at hspells
    exact absurd hspells (by decide)
  | cons b tail =>
    have hletter := hspells.covers_letters (by decide) b (htaken ▸ List.mem_cons_self)
    have hnot := isWord_head_of_boundaryAfter h b (by rw [htaken]; rfl)
    rw [isWord_of_letter hletter] at hnot
    cases hnot

theorem takeUnitWord_eq_some_iff : takeUnitWord word cs = some (unit, plural) ↔
    ∃ after, Ending word cs unit plural after := by
  constructor
  · intro h
    obtain ⟨⟨taken, rest⟩, htaken, hrest⟩ := Option.bind_eq_some_iff.1 h
    obtain ⟨rfl, hspells⟩ := takeWord_eq_some_iff.1 htaken
    dsimp only at hrest
    cases hs : takeWord "s" rest with
    | none =>
      rw [hs, Option.getD_none, Option.ite_none_right_eq_some] at hrest
      obtain ⟨hends, hsame⟩ := hrest
      cases hsame
      exact ⟨rest, rfl, hspells, .inl rfl, hends⟩
    | some found =>
      obtain ⟨s, rest'⟩ := found
      obtain ⟨rfl, hplural⟩ := takeWord_eq_some_iff.1 hs
      rw [hs, Option.getD_some, Option.ite_none_right_eq_some] at hrest
      obtain ⟨hends, hsame⟩ := hrest
      cases hsame
      exact ⟨rest', rfl, hspells, .inr hplural, hends⟩
  · rintro ⟨after, rfl, hspells, hplural, hends⟩
    refine Option.bind_eq_some_iff.2 ⟨_, takeWord_eq_some_iff.2 ⟨rfl, hspells⟩, ?_⟩
    dsimp only
    rcases hplural with rfl | hplural
    · rw [List.nil_append, takeWord_s_eq_none hends, Option.getD_none, if_pos hends]
    · rw [takeWord_eq_some_iff.2 ⟨rfl, hplural⟩, Option.getD_some, if_pos hends]

theorem Ending.takeWhile_isWord {entry : String × TimeUnit} (hmem : entry ∈ unitWords)
    (h : Ending entry.1 cs unit plural after) : cs.takeWhile isWord = unit ++ plural := by
  rw [h.text_eq, ← List.append_assoc]
  refine takeWhile_run (fun c hc => ?_) (isWord_head_of_boundaryAfter h.ends)
  apply isWord_of_letter
  rcases List.mem_append.1 hc with hc | hc
  · exact h.unit.covers_letters (all_isLower_of_mem hmem) c hc
  · rcases h.plural with hnil | hs
    · rw [hnil] at hc
      cases hc
    · exact hs.covers_letters (by decide) c hc

/-- No word for a unit is another one with an s, so a text ends in one of them in one way. -/
theorem Ending.unique {entry entry' : String × TimeUnit} {unit' plural' after' : List Char}
    (hmem : entry ∈ unitWords) (hmem' : entry' ∈ unitWords)
    (h : Ending entry.1 cs unit plural after) (h' : Ending entry'.1 cs unit' plural' after') :
    unit = unit' ∧ plural = plural' := by
  have hall : ∀ e ∈ unitWords, ∀ e' ∈ unitWords, ∀ s ∈ [[], ['s']], ∀ s' ∈ [[], ['s']],
      e.1.toList ++ s = e'.1.toList ++ s' → e.1.toList.length = e'.1.toList.length := by
    decide +kernel
  have hplural : ∀ {plural : List Char}, plural = [] ∨ Spells "s" plural →
      plural.map foldLetter ∈ [[], ['s']] := by
    rintro plural (rfl | hs)
    · exact List.mem_cons_self
    · rw [hs]
      decide
  have hsame := (h.takeWhile_isWord hmem).symm.trans (h'.takeWhile_isWord hmem')
  have hfold := congrArg (List.map foldLetter) hsame
  rw [List.map_append, List.map_append, h.unit, h'.unit] at hfold
  have hlength := hall entry hmem entry' hmem' _ (hplural h.plural) _ (hplural h'.plural) hfold
  rw [← h.unit, ← h'.unit, List.length_map, List.length_map] at hlength
  exact List.append_inj hsame hlength

theorem takeUnit_eq_some_iff : takeUnit cs = some (unit, plural) ↔
    ∃ entry ∈ unitWords, ∃ after, Ending entry.1 cs unit plural after := by
  have hfound : ∀ {u s : List Char}, takeUnit cs = some (u, s) →
      ∃ entry ∈ unitWords, ∃ after, Ending entry.1 cs u s after := by
    intro u s h
    obtain ⟨entry, hmem, h⟩ := List.exists_of_findSome?_eq_some h
    exact ⟨entry, hmem, takeUnitWord_eq_some_iff.1 h⟩
  refine ⟨hfound, ?_⟩
  rintro ⟨entry, hmem, after, h⟩
  have hsome : (takeUnit cs).isSome = true := by
    refine List.findSome?_isSome_iff.2 ⟨entry, hmem, ?_⟩
    dsimp only
    rw [takeUnitWord_eq_some_iff.2 ⟨after, h⟩]
    rfl
  obtain ⟨⟨unit', plural'⟩, hfirst⟩ := Option.isSome_iff_exists.1 hsome
  obtain ⟨entry', hmem', after', h'⟩ := hfound hfirst
  obtain ⟨rfl, rfl⟩ := h.unique hmem hmem' h'
  exact hfirst

end TimeWindow.Phrase
