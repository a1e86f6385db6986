import TimeWindow.Proofs.Completion.Asking
import TimeWindow.Proofs.Key.Produced
import TimeWindow.Proofs.Resolve.Rendering

/-!
Commands of the command line. Every line that is neither blank nor the word to leave asks for one
thing: a command that opens it, or else the phrase that it is. What is said to a command that does
not fail is what the library gives for it: the presets with their labels, a key, its range or its
label, or the window of a phrase. To write a key never fails.
-/

namespace TimeWindow

theorem Outcome.exists_told {α : Type} {o : Outcome α} {x : Except Failure String}
    (h : (o.told x).result = .ok ()) : ∃ text, x = .ok text := by
  obtain ⟨text, htext, -⟩ := Except.map_eq_ok_iff.1 h
  exact ⟨text, htext⟩

theorem Outcome.printed_told {α : Type} {o : Outcome α} {x : Except Failure String} {text : String}
    (h : x = .ok text) : (o.told x).printed = text := by
  subst h
  rfl

namespace Normalization

variable {setup : Setup} {text other : String} {reading : Reading}

theorem text_of_resolveStage {stage : Stage}
    (h : (resolveStage setup stage reading).result = .error (.noWindow other)) :
    other = stage.text := by
  unfold resolveStage at h
  split at h
  · cases h
    rfl
  · rename_i d hd
    rcases Except.bind_eq_error_iff.1 h with hresolve | ⟨range, -, hvalue⟩
    · obtain ⟨e, -, he⟩ := Except.mapError_eq_error_iff.1 hresolve
      cases he
    · rcases Except.bind_eq_error_iff.1 hvalue with hvalue | ⟨value, -, hpure⟩
      · obtain ⟨e, -, he⟩ := Except.mapError_eq_error_iff.1 hvalue
        cases he
      · cases hpure

theorem text_of_noWindow (h : (run setup text reading).result = .error (.noWindow other)) :
    other = text := by
  unfold run at h
  split at h
  · cases h
  · rename_i found hparse
    cases found with
    | some f => exact text_of_resolveStage h
    | none =>
      obtain ⟨window, hwindow⟩ := Completion.exists_window setup.environment setup.client
      simp only [hwindow] at h
      exact text_of_resolveStage h

end Normalization

namespace Console

open Json (Value)

variable {line : String} {command : Command}

inductive Asks (line : String) : Command → Prop
  | presets (h : Text.trim line = "/presets") : Asks line .presets
  | encode {rest : String} (h : Text.trim line = "/encode " ++ rest) :
      Asks line (.encode (Text.words rest))
  | resolve {rest : String} (h : Text.trim line = "/resolve " ++ rest) :
      Asks line (.resolve (Text.trim rest))
  | label {rest : String} (h : Text.trim line = "/label " ++ rest) :
      Asks line (.label (Text.trim rest))
  | phrase (hwords : Text.trim line ∉ ["", "/exit", "/presets"])
      (hopening : ∀ opening ∈ ["/encode ", "/resolve ", "/label "], ∀ rest,
        Text.trim line ≠ opening ++ rest) : Asks line (.phrase (Text.trim line))

theorem argument?_eq_some_iff {opening word rest : String} (h : opening = word ++ " ") :
    argument? word line = some rest ↔ line = opening ++ rest := by
  subst h
  rw [argument?, Option.map_eq_some_iff]
  simp only [List.isPrefixOf?_eq_some_iff_append_eq]
  constructor
  · rintro ⟨cs, hcs, rfl⟩
    apply String.toList_injective
    rw [← hcs]
    simp
  · rintro rfl
    exact ⟨rest.toList, by simp, by simp⟩

/-- The third character, in which all commands differ. -/
def mark (s : String) : Option Char := s.toList[2]?

theorem mark_of_opening {opening rest : String} (h : line = opening ++ rest)
    (hlength : 2 < opening.toList.length) : mark line = mark opening := by
  rw [h, mark, mark, String.toList_append, List.getElem?_append_left hlength]

theorem argument?_eq_none {word : String} {m : Option Char} (hmark : mark line = m)
    (hlength : 2 < (word ++ " ").toList.length) (h : mark (word ++ " ") ≠ m) :
    argument? word line = none := by
  rw [Option.eq_none_iff_forall_ne_some]
  intro rest hrest
  exact h ((mark_of_opening ((argument?_eq_some_iff rfl).1 hrest) hlength).symm.trans hmark)

theorem ne_of_mark {s : String} {m : Option Char} (hmark : mark s = m)
    (h : m ∉ ["", "/exit", "/presets"].map mark) : s ≠ "" ∧ s ≠ "/exit" ∧ s ≠ "/presets" := by
  refine ⟨?_, ?_, ?_⟩ <;>
    · rintro rfl
      exact h (hmark ▸ List.mem_map_of_mem (by simp))

theorem ofLine?_of_asks (h : Asks line command) : Command.ofLine? line = some command := by
  cases h with
  | presets h =>
    rw [Command.ofLine?, h]
    rfl
  | encode h =>
    have hargument : argument? "/encode" (Text.trim line) = some _ :=
      (argument?_eq_some_iff (by decide)).2 h
    have hmark := mark_of_opening h (by decide)
    obtain ⟨hblank, hexit, hpresets⟩ := ne_of_mark hmark (by decide)
    simp only [Command.ofLine?, String.isEmpty_iff, hblank, hexit, hpresets, if_false, hargument]
  | resolve h =>
    have hargument : argument? "/resolve" (Text.trim line) = some _ :=
      (argument?_eq_some_iff (by decide)).2 h
    have hmark := mark_of_opening h (by decide)
    obtain ⟨hblank, hexit, hpresets⟩ := ne_of_mark hmark (by decide)
    have hencode : argument? "/encode" (Text.trim line) = none :=
      argument?_eq_none hmark (by decide) (by decide)
    simp only [Command.ofLine?, String.isEmpty_iff, hblank, hexit, hpresets, if_false, hargument,
      hencode]
  | label h =>
    have hargument : argument? "/label" (Text.trim line) = some _ :=
      (argument?_eq_some_iff (by decide)).2 h
    have hmark := mark_of_opening h (by decide)
    obtain ⟨hblank, hexit, hpresets⟩ := ne_of_mark hmark (by decide)
    have hencode : argument? "/encode" (Text.trim line) = none :=
      argument?_eq_none hmark (by decide) (by decide)
    have hresolve : argument? "/resolve" (Text.trim line) = none :=
      argument?_eq_none hmark (by decide) (by decide)
    simp only [Command.ofLine?, String.isEmpty_iff, hblank, hexit, hpresets, if_false, hargument,
      hencode, hresolve]
  | phrase hwords hopening =>
    simp only [List.mem_cons, List.not_mem_nil, or_false, not_or] at hwords
    obtain ⟨hblank, hexit, hpresets⟩ := hwords
    have hnone : ∀ word, word ++ " " ∈ ["/encode ", "/resolve ", "/label "] →
        argument? word (Text.trim line) = none := by
      intro word hword
      rw [Option.eq_none_iff_forall_ne_some]
      intro rest hrest
      exact hopening _ hword rest ((argument?_eq_some_iff rfl).1 hrest)
    simp only [Command.ofLine?, String.isEmpty_iff, hblank, hexit, hpresets, if_false,
      hnone "/encode" (by decide), hnone "/resolve" (by decide), hnone "/label" (by decide)]

theorem exists_asks (hblank : Text.trim line ≠ "") (hexit : Text.trim line ≠ "/exit") :
    ∃ command, Asks line command := by
  by_cases hpresets : Text.trim line = "/presets"
  · exact ⟨_, .presets hpresets⟩
  · by_cases hopening : ∀ opening ∈ ["/encode ", "/resolve ", "/label "], ∀ rest,
        Text.trim line ≠ opening ++ rest
    · exact ⟨_, .phrase (by simp [hblank, hexit, hpresets]) hopening⟩
    · simp only [List.mem_cons, List.not_mem_nil, or_false, not_forall, not_not, exists_prop] at hopening
      obtain ⟨opening, hmem, rest, h⟩ := hopening
      rcases hmem with rfl | rfl | rfl
      · exact ⟨_, .encode h⟩
      · exact ⟨_, .resolve h⟩
      · exact ⟨_, .label h⟩

inductive Encoded : List String → String → Prop
  | key {unit count reference : String} {n : Int} (hcount : Text.readInteger count = .ok n)
      (hwritable : Text.isWritable n) :
      Encoded [unit, count, reference] (Key.write unit n reference ++ "\n")
  | count {unit count reference : String} {e : Text.NumeralError}
      (hcount : Text.readInteger count = .error e) :
      Encoded [unit, count, reference] "[usage] count must be an integer\n"
  | usage {arguments : List String} (hlength : arguments.length ≠ 3) :
      Encoded arguments "[usage] /encode <Unit> <count> <referenceTime>\n"

theorem encoded_spec (arguments : List String) : Encoded arguments (encoded arguments) := by
  unfold encoded
  split
  · rename_i unit count reference
    cases hcount : Text.readInteger count with
    | ok n => exact .key hcount (Text.isWritable_of_readInteger hcount)
    | error e => exact .count hcount
  · rename_i hnot
    refine .usage fun hlength => ?_
    obtain ⟨unit, count, reference, rfl⟩ := List.length_eq_three.1 hlength
    exact hnot _ _ _ rfl

section

variable {session : Session} {client : Option Client} {key text : String} {reading : Reading}

theorem resolved_printed
    (h : (resolved session key reading).result = .ok ()) :
    ∃ d range value, (session.resolver.parse (.string key)).result = .ok d ∧
      (session.resolver.resolve (.key (.string key)) reading).result = .ok range ∧
      range.toValue = .ok value ∧ (resolved session key reading).printed =
        shownWith (.object [("key", .string d.key), ("range", value)]) range := by
  obtain ⟨d, ds, hd⟩ := session.resolver.options.exists_descriptor
    (Target.writable_text (.text key))
  have hparse : (session.resolver.parse (.string key)).result = .ok d := by
    rw [Resolver.parse, Resolver.described, hd]
  rw [resolved_of_descriptor hd] at h ⊢
  obtain ⟨text, htext⟩ := Outcome.exists_told h
  obtain ⟨range, hrange, hshown⟩ := Except.bind_eq_ok_iff.1 htext
  obtain ⟨value, hvalue, hshown⟩ := Except.bind_eq_ok_iff.1 hshown
  cases hshown
  exact ⟨d, range, value, hparse, hrange, Except.mapError_eq_ok_iff.1 hvalue,
    Outcome.printed_told htext⟩

theorem parse_of_read {w : Window} (h : Key.read key = .ok w) :
    (session.resolver.parse (.string key)).result = .ok { w with key } := by
  have hd := session.resolver.options.descriptor_of_read h
  rw [Resolver.parse, Resolver.described]
  exact hd ▸ rfl

/-- What is said to a command, by what the library gives for it. -/
inductive Said (session : Session) (client : Option Client) (reading : Reading) :
    Command → String → Prop
  | presets {labels : List String}
      (h : List.Forall₂ (fun preset label =>
        (session.resolver.label (.key (.string preset.2.key))).result = .ok label)
          Descriptor.presets labels) :
      Said session client reading .presets (String.join (List.zipWith (fun preset label =>
        padded 10 preset.1 ++ " " ++ preset.2.key ++ "  (" ++ label ++ ")\n")
          Descriptor.presets labels))
  | encode {arguments : List String} {text : String} (h : Encoded arguments text) :
      Said session client reading (.encode arguments) text
  | resolve {key : String} {d : Descriptor} {range : Range} {value : Value}
      (hkey : (session.resolver.parse (.string key)).result = .ok d)
      (hrange : (session.resolver.resolve (.key (.string key)) reading).result = .ok range)
      (hvalue : range.toValue = .ok value) :
      Said session client reading (.resolve key)
        (shownWith (.object [("key", .string d.key), ("range", value)]) range)
  | label {key text : String}
      (h : (session.resolver.label (.key (.string key))).result = .ok text) :
      Said session client reading (.label key) (text ++ "\n")
  | normalized {text : String} {n : Normalization.Normalized}
      (h : (Normalization.run ⟨session.resolver, session.environment, client, false⟩ text
        reading).result = .ok n) :
      Said session client reading (.phrase text) ("Normalized>\n" ++ shownWith n.toValue n.range)
  | nothing {text : String}
      (h : (Normalization.run ⟨session.resolver, session.environment, client, false⟩ text
        reading).result = .error (.noWindow text)) :
      Said session client reading (.phrase text)
        ("[normalize error] no relative time window found in " ++ Text.quote text ++ "\n")

theorem said_presets (session : Session) (client : Option Client) (reading : Reading) :
    Said session client reading .presets presetLines := by
  have hlabels : List.Forall₂ (fun preset label =>
      (session.resolver.label (.key (.string preset.2.key))).result = .ok label)
        Descriptor.presets (Descriptor.presets.map (·.2.label)) := by
    rw [List.forall₂_map_right_iff, List.forall₂_same]
    intro preset hmem
    rw [(Descriptor.faithful_of_mem_presets hmem).label_key]
    rfl
  exact .presets hlabels

theorem said_normalized (h : (normalized session client text reading).result = .ok ()) :
    Said session client reading (.phrase text)
      (normalized session client text reading).printed := by
  rw [normalized] at h ⊢
  obtain ⟨told, htold⟩ := Outcome.exists_told h
  rw [Outcome.printed_told htold]
  split at htold
  · rename_i n hrun
    cases htold
    exact .normalized hrun
  · rename_i other hrun
    cases htold
    cases Normalization.text_of_noWindow hrun
    exact .nothing hrun
  · cases htold

theorem said_of_asks (hasks : Asks line command)
    (h : (answer session client command reading).result = .ok ()) :
    Said session client reading command (answer session client command reading).printed := by
  cases hasks with
  | presets => exact said_presets session client reading
  | encode => exact .encode (encoded_spec _)
  | resolve =>
    rw [answer] at h ⊢
    obtain ⟨d, range, value, hkey, hrange, hvalue, hprinted⟩ := resolved_printed h
    rw [hprinted]
    exact .resolve hkey hrange hvalue
  | label =>
    rw [answer] at h ⊢
    obtain ⟨text, htext⟩ := Outcome.exists_told h
    obtain ⟨label, hlabel, rfl⟩ := Except.map_eq_ok_iff.1 htext
    rw [Outcome.printed_told htext]
    exact .label hlabel
  | phrase => exact said_normalized h

end

end Console

end TimeWindow
