import TimeWindow.Proofs.Phrase.Fault

/-!
What is read from a text. The phrase that looks back and stands first decides, whatever else the
text holds; a text in which none stands is read by the first of the fixed phrases that occurs in it.
-/

namespace TimeWindow.Phrase

open Text (lower maxDigits)

variable {part cs : List Char} {p : LookBack} {text : String}

/-- A phrase that looks back leads a text if none stands further left, and no other at its place. -/
structure LookBack.Leads (p : LookBack) (text before after : List Char) : Prop where
  stands : p.Stands text before after
  first : ∀ {p' : LookBack} {before' after' : List Char}, p'.Stands text before' after' →
    before.length ≤ before'.length
  only : ∀ {p' : LookBack} {before' after' : List Char}, p'.Stands text before' after' →
    before'.length = before.length → p' = p

theorem exists_leads (h : findLookBack none cs = some p) : ∃ before after, p.Leads cs before after := by
  obtain ⟨before, after, hstands, hfirst⟩ := findLookBack_eq_some_iff.1 h
  exact ⟨before, after, hstands, hfirst _ _ _, hstands.unique⟩

theorem LookBack.not_faulty {found : Option Found} (h : parse text = .ok found)
    (hp : findLookBack none text.toList = some p) : p.digits.length ≤ maxDigits ∧ ¬p.Misspelt := by
  have hnone : ∀ e, ¬Faulty text e := by
    intro e he
    rw [parse_eq_error_iff.2 he] at h
    cases h
  have hshort : p.digits.length ≤ maxDigits := by
    by_contra hlong
    exact hnone _ (.amount hp (Nat.lt_of_not_le hlong))
  exact ⟨hshort, fun hmisspelt => hnone _ (.unit hp hshort hmisspelt)⟩

theorem parse_of_findLookBack (hp : findLookBack none text.toList = some p)
    (hshort : p.digits.length ≤ maxDigits) (hspelt : ¬p.Misspelt) {entry : String × TimeUnit}
    (hmem : entry ∈ unitWords) (hspells : Spells entry.1 p.unit) : parse text =
      .ok (some ⟨String.ofList p.text, Window.descriptor ⟨entry.2, -p.number, .now⟩⟩) := by
  rw [parse, hp]
  dsimp only
  rw [(taken_of_findLookBack hp).found_eq_ok hshort hspelt hmem hspells]
  rfl

theorem occursIn_iff : occursIn part cs = true ↔ part <:+: cs := by
  induction cs with
  | nil => rw [occursIn, List.isEmpty_iff, List.infix_nil]
  | cons c rest ih =>
    rw [occursIn, Bool.or_eq_true, List.isPrefixOf_iff_prefix, ih, List.infix_cons_iff]

theorem findFixed_eq (text : String) : findFixed text =
    fixed.find? fun f => f.phrase.toList <:+: (lower text).toList := by
  rw [findFixed]
  congr 1
  funext f
  rw [Bool.eq_iff_iff, occursIn_iff, decide_eq_true_iff]

/-- The phrase that looks back and stands first is the whole of what is read, and any phrase that
stands in the text at all brings the rule about; the fixed phrases come after it. -/
theorem parse_first_standing {found : Option Found} (h : parse text = .ok found) :
    ((∃ p, findLookBack none text.toList = some p) ↔
      ∃ (p : LookBack) (before after : List Char), p.Stands text.toList before after) ∧
    ((∃ (p : LookBack) (before after : List Char), p.Stands text.toList before after) →
      ∃ (p : LookBack) (before after : List Char), p.Leads text.toList before after ∧
        ∃ entry ∈ unitWords, Spells entry.1 p.unit ∧
          found = some ⟨String.ofList p.text, Window.descriptor ⟨entry.2, -p.number, .now⟩⟩) ∧
    ((¬∃ (p : LookBack) (before after : List Char), p.Stands text.toList before after) →
      found = fixed.find? fun f => f.phrase.toList <:+: (lower text).toList) := by
  refine ⟨exists_findLookBack_iff, fun hstands => ?_, fun hnone => ?_⟩
  · obtain ⟨p, hp⟩ := exists_findLookBack_iff.2 hstands
    obtain ⟨before, after, hleads⟩ := exists_leads hp
    obtain ⟨entry, hmem, hspells⟩ := hleads.stands.shaped.unit
    obtain ⟨hshort, hspelt⟩ := LookBack.not_faulty h hp
    rw [parse_of_findLookBack hp hshort hspelt hmem hspells] at h
    exact ⟨p, before, after, hleads, entry, hmem, hspells, (Except.ok.inj h).symm⟩
  · rw [← exists_findLookBack_iff, not_exists] at hnone
    have hfixed : parse text = .ok (findFixed text) := by
      rw [parse, Option.eq_none_iff_forall_ne_some.2 hnone]
    rw [← findFixed_eq]
    exact Except.ok.inj (h.symm.trans hfixed)

/-- A phrase that breaks off does not hide the one that begins inside it, nor does a fixed one. -/
theorem parse_first_standing_broken_off :
    parse "today past 3 last 2 days" =
      .ok (some ⟨"last 2 days", Window.descriptor ⟨.day, -2, .now⟩⟩) ∧
    ∃ (p : LookBack) (before after : List Char),
      p.Leads "today past 3 last 2 days".toList before after ∧
        ∃ entry ∈ unitWords, Spells entry.1 p.unit ∧
          some ⟨"last 2 days", Window.descriptor ⟨.day, -2, .now⟩⟩ = some
            (⟨String.ofList p.text, Window.descriptor ⟨entry.2, -p.number, .now⟩⟩ : Found) := by
  have hread : parse "today past 3 last 2 days" =
      .ok (some ⟨"last 2 days", Window.descriptor ⟨.day, -2, .now⟩⟩) := by
    decide +kernel
  obtain ⟨htaken, hleads, -⟩ := parse_first_standing hread
  refine ⟨hread, hleads (htaken.1 (Option.isSome_iff_exists.1 ?_))⟩
  decide +kernel

end TimeWindow.Phrase
