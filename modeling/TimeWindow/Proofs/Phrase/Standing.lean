import TimeWindow.Proofs.Phrase.Scanning

/-!
Phrases that look back, said without a scanner: an opening word, blanks, perhaps digits and blanks,
a word for a unit and perhaps an s, which stand in a text as whole words. What the scanner finds is
the phrase that stands first, and at one place there stands at most one.
-/

namespace TimeWindow.Phrase

open Text (isBlank isDecimal boundaryBefore boundaryAfter)

namespace LookBack

structure Shaped (p : LookBack) : Prop where
  opening : ∃ word blanks, p.opening = word ++ blanks ∧
    (Spells "last" word ∨ Spells "past" word) ∧ Run isBlank blanks
  amount : ∀ digits blanks, p.amount = some (digits, blanks) →
    Run isDecimal digits ∧ Run isBlank blanks
  unit : ∃ entry ∈ unitWords, Spells entry.1 p.unit
  plural : p.plural = [] ∨ Spells "s" p.plural

/-- A phrase that looks back stands in a text where no word runs on into it from either side. -/
structure Stands (p : LookBack) (text before after : List Char) : Prop where
  shaped : p.Shaped
  text_eq : text = before ++ (p.text ++ after)
  starts : boundaryBefore before.getLast? = true
  ends : boundaryAfter after = true

end LookBack

variable {cs unit : List Char} {p : LookBack}

/-- Digits and blanks belong to the amount, so the amount that is taken is the one that is meant. -/
theorem takeAmount_before_unit {entry : String × TimeUnit} {amount : Option (List Char × List Char)}
    (hmem : entry ∈ unitWords) (hunit : Spells entry.1 unit)
    (hamount : ∀ digits blanks, amount = some (digits, blanks) →
      Run isDecimal digits ∧ Run isBlank blanks) (rest : List Char) :
    let before := (amount.map fun run => run.1 ++ run.2).getD []
    (∀ c ∈ (before ++ (unit ++ rest)).head?, isBlank c = false) ∧
      takeAmount (before ++ (unit ++ rest)) = amount.map fun run => (run, unit ++ rest) := by
  have hletter : ∀ c ∈ (unit ++ rest).head?, letters.covers c = true :=
    (hunit.run_letters hmem).head_eq
  cases amount with
  | none =>
    exact ⟨fun c hc => isBlank_of_letter (hletter c hc),
      takeAmount_eq_none fun c hc => isDecimal_of_letter (hletter c hc)⟩
  | some run =>
    obtain ⟨digits, blanks⟩ := run
    obtain ⟨hdigits, hblanks⟩ := hamount digits blanks rfl
    simp only [Option.map_some, Option.getD_some, List.append_assoc]
    exact ⟨fun c hc => isBlank_of_isDecimal (hdigits.head_eq c hc),
      takeAmount_eq_some_iff.2 ⟨rfl, hdigits, hblanks, fun c hc => isBlank_of_letter (hletter c hc)⟩⟩

theorem LookBack.text_eq (p : LookBack) : p.text =
    p.opening ++ ((p.amount.map fun run => run.1 ++ run.2).getD [] ++ (p.unit ++ p.plural)) := by
  rw [text]
  cases p.amount <;> simp

theorem lookBackHere_eq_some_iff : lookBackHere cs = some p ↔
    p.Shaped ∧ ∃ after, cs = p.text ++ after ∧ boundaryAfter after = true := by
  constructor
  · intro h
    obtain ⟨⟨opening, rest⟩, hopening, hrest⟩ := Option.bind_eq_some_iff.1 h
    obtain ⟨word, blanks, rfl, rfl, hword, hblanks, -⟩ := takeOpening_eq_some_iff.1 hopening
    cases hamount : takeAmount rest with
    | none =>
      simp only [hamount] at hrest
      obtain ⟨⟨unit, plural⟩, hunit, hp⟩ := Option.bind_eq_some_iff.1 hrest
      cases hp
      obtain ⟨entry, hmem, after, hending⟩ := takeUnit_eq_some_iff.1 hunit
      refine ⟨⟨⟨word, blanks, rfl, hword, hblanks⟩, fun _ _ hsome => (nomatch hsome),
        ⟨entry, hmem, hending.unit⟩, hending.plural⟩, after, ?_, hending.ends⟩
      rw [LookBack.text_eq, hending.text_eq]
      simp
    | some taken =>
      obtain ⟨⟨digits, blanks'⟩, rest'⟩ := taken
      simp only [hamount] at hrest
      obtain ⟨⟨unit, plural⟩, hunit, hp⟩ := Option.bind_eq_some_iff.1 hrest
      cases hp
      obtain ⟨htaken, hdigits, hblanks', -⟩ := takeAmount_eq_some_iff.1 hamount
      obtain ⟨entry, hmem, after, hending⟩ := takeUnit_eq_some_iff.1 hunit
      refine ⟨⟨⟨word, blanks, rfl, hword, hblanks⟩, ?_, ⟨entry, hmem, hending.unit⟩,
        hending.plural⟩, after, ?_, hending.ends⟩
      · rintro _ _ ⟨⟩
        exact ⟨hdigits, hblanks'⟩
      · rw [LookBack.text_eq, htaken, hending.text_eq]
        simp
  · rintro ⟨hshaped, after, rfl, hends⟩
    obtain ⟨opening, amount, unit, plural⟩ := p
    obtain ⟨word, blanks, rfl, hword, hblanks⟩ := hshaped.opening
    obtain ⟨entry, hmem, hunit⟩ := hshaped.unit
    obtain ⟨hhead, hamount⟩ := takeAmount_before_unit hmem hunit hshaped.amount (plural ++ after)
    have hopened := takeOpening_eq_some_iff.2 ⟨word, blanks, rfl, rfl, hword, hblanks, hhead⟩
    have hended : takeUnit (unit ++ (plural ++ after)) = some (unit, plural) :=
      takeUnit_eq_some_iff.2 ⟨entry, hmem, after, rfl, hunit, hshaped.plural, hends⟩
    rw [LookBack.text_eq]
    simp only [List.append_assoc]
    refine Option.bind_eq_some_iff.2 ⟨_, hopened, ?_⟩
    dsimp only
    rw [hamount]
    cases amount with
    | none => exact Option.bind_eq_some_iff.2 ⟨_, hended, rfl⟩
    | some run => exact Option.bind_eq_some_iff.2 ⟨_, hended, rfl⟩

variable {before : Option Char}

theorem getLast?_cons_or (c : Char) (front : List Char) (before : Option Char) :
    (c :: front).getLast?.or before = front.getLast?.or (some c) := by
  rw [List.getLast?_cons]
  cases front.getLast? <;> rfl

theorem lookBackHere_nil : lookBackHere [] = none := by decide

theorem lookBackHere_eq_none (h : findLookBack before cs = none) {front rest : List Char}
    (hcs : cs = front ++ rest) (hstarts : boundaryBefore (front.getLast?.or before) = true) :
    lookBackHere rest = none := by
  induction cs generalizing before front with
  | nil =>
    obtain ⟨-, rfl⟩ := List.append_eq_nil_iff.1 hcs.symm
    exact lookBackHere_nil
  | cons c tail ih =>
    rw [findLookBack] at h
    split at h
    · cases h
    · rename_i hhere
      cases front with
      | nil =>
        rw [List.getLast?_nil, Option.none_or] at hstarts
        rwa [if_pos hstarts, hcs] at hhere
      | cons d front =>
        obtain ⟨rfl, htail⟩ := List.cons.inj hcs
        exact ih h htail (by rwa [← getLast?_cons_or])

theorem exists_place (h : findLookBack before cs = some p) : ∃ front rest, cs = front ++ rest ∧
    boundaryBefore (front.getLast?.or before) = true ∧ lookBackHere rest = some p ∧
      ∀ front' rest', cs = front' ++ rest' → front'.length < front.length →
        boundaryBefore (front'.getLast?.or before) = true → lookBackHere rest' = none := by
  induction cs generalizing before with
  | nil => cases h
  | cons c tail ih =>
    rw [findLookBack] at h
    split at h
    · rename_i found hhere
      cases h
      split at hhere
      · rename_i hstarts
        exact ⟨[], c :: tail, rfl, hstarts, hhere, fun _ _ _ hlt => absurd hlt (Nat.not_lt_zero _)⟩
      · cases hhere
    · rename_i hhere
      obtain ⟨front, rest, rfl, hstarts, hrest, hfirst⟩ := ih h
      refine ⟨c :: front, rest, rfl, by rwa [getLast?_cons_or], hrest, ?_⟩
      intro front' rest' hcs hlt hstarts'
      cases front' with
      | nil =>
        rw [List.getLast?_nil, Option.none_or] at hstarts'
        rwa [if_pos hstarts', hcs] at hhere
      | cons d front' =>
        obtain ⟨rfl, htail⟩ := List.cons.inj hcs
        exact hfirst front' rest' htail (Nat.lt_of_succ_lt_succ hlt) (by rwa [← getLast?_cons_or])

namespace LookBack

variable {p' : LookBack} {before after before' after' : List Char}

theorem Stands.lookBackHere_eq (h : p.Stands cs before after) :
    lookBackHere (p.text ++ after) = some p :=
  lookBackHere_eq_some_iff.2 ⟨h.shaped, after, rfl, h.ends⟩

theorem Stands.unique (h : p.Stands cs before after) (h' : p'.Stands cs before' after')
    (hlength : before'.length = before.length) : p' = p := by
  have hrest := (List.append_inj (h'.text_eq.symm.trans h.text_eq) hlength).2
  have hsame := h'.lookBackHere_eq
  rw [hrest, h.lookBackHere_eq] at hsame
  exact (Option.some.inj hsame).symm

end LookBack

theorem exists_findLookBack_iff : (∃ p, findLookBack none cs = some p) ↔
    ∃ (p : LookBack) (before after : List Char), p.Stands cs before after := by
  constructor
  · rintro ⟨p, h⟩
    obtain ⟨front, rest, rfl, hstarts, hrest, -⟩ := exists_place h
    obtain ⟨hshaped, after, rfl, hends⟩ := lookBackHere_eq_some_iff.1 hrest
    exact ⟨p, front, after, hshaped, rfl, by rwa [Option.or_none] at hstarts, hends⟩
  · rintro ⟨p, before, after, h⟩
    rw [← Option.isSome_iff_exists, Option.isSome_iff_ne_none]
    intro hnone
    have hstarts : boundaryBefore (before.getLast?.or none) = true := by
      rw [Option.or_none]
      exact h.starts
    have hfound := h.lookBackHere_eq
    rw [lookBackHere_eq_none hnone h.text_eq hstarts] at hfound
    cases hfound

theorem findLookBack_eq_some_iff : findLookBack none cs = some p ↔
    ∃ before after, p.Stands cs before after ∧ ∀ (p' : LookBack) (before' after' : List Char),
      p'.Stands cs before' after' → before.length ≤ before'.length := by
  have hfirst : ∀ {p : LookBack}, findLookBack none cs = some p →
      ∃ before after, p.Stands cs before after ∧ ∀ (p' : LookBack) (before' after' : List Char),
        p'.Stands cs before' after' → before.length ≤ before'.length := by
    intro p h
    obtain ⟨front, rest, rfl, hstarts, hrest, hnone⟩ := exists_place h
    obtain ⟨hshaped, after, rfl, hends⟩ := lookBackHere_eq_some_iff.1 hrest
    rw [Option.or_none] at hstarts
    refine ⟨front, after, ⟨hshaped, rfl, hstarts, hends⟩, fun p' before' after' h' => ?_⟩
    by_contra hlt
    have hstarts' : boundaryBefore (before'.getLast?.or none) = true := by
      rw [Option.or_none]
      exact h'.starts
    have hfound := h'.lookBackHere_eq
    rw [hnone before' _ h'.text_eq (Nat.lt_of_not_le hlt) hstarts'] at hfound
    cases hfound
  refine ⟨hfirst, ?_⟩
  rintro ⟨before, after, h, hleast⟩
  obtain ⟨p', hfound⟩ := exists_findLookBack_iff.2 ⟨p, before, after, h⟩
  obtain ⟨before', after', h', hleast'⟩ := hfirst hfound
  have hlength := Nat.le_antisymm (hleast' p before after h) (hleast p' before' after' h')
  rw [hfound, h.unique h' hlength]

end TimeWindow.Phrase
