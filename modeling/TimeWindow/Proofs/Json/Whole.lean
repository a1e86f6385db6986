import TimeWindow.Count
import TimeWindow.Json.Reader
import TimeWindow.Proofs.Text.Numeral

/-!
Whole numbers in documents. A number with too many digits is not read at all, so every whole number
that stands anywhere in a document that has been read can be written out.
-/

namespace TimeWindow.Json

theorem writableItems_iff {items : List Value} :
    writableItems items = true ↔ ∀ v ∈ items, v.writable = true := by
  induction items with
  | nil => simp [writableItems]
  | cons v rest ih => simp [writableItems, ih]

theorem writableFields_iff {fields : List (Literal × Value)} :
    writableFields fields = true ↔ ∀ f ∈ fields, f.2.writable = true := by
  induction fields with
  | nil => simp [writableFields]
  | cons f rest ih => simp [writableFields, ih]

namespace Value

theorem writable_int_iff {n : Int} :
    (Value.int n).writable = true ↔ n.natAbs < 10 ^ Text.maxDigits :=
  Text.isWritable_iff

theorem not_writable_long : (Value.int (10 ^ 4300)).writable = false := by
  rw [Bool.eq_false_iff, ne_eq, writable_int_iff]
  decide +kernel

theorem writable_array {items : List Value} :
    (Value.array items).writable = true ↔ ∀ v ∈ items, v.writable = true := by
  rw [writable, writableItems_iff]

theorem writable_object {fields : Fields} :
    (Value.object fields).writable = true ↔ ∀ f ∈ fields, f.2.writable = true := by
  rw [writable, writableFields_iff]

end Value

namespace Fields

variable {fields : Fields} {name : Literal} {v : Value}

theorem mem_of_get? (h : fields.get? name = some v) : (name, v) ∈ fields := by
  induction fields with
  | nil => cases h
  | cons field rest ih =>
    rw [get?] at h
    split at h
    · rename_i hname
      cases h
      exact hname ▸ List.mem_cons_self
    · exact List.mem_cons_of_mem _ (ih h)

theorem mem_insert {f : Literal × Value} (h : f ∈ fields.insert name v) : f.2 = v ∨ f ∈ fields := by
  induction fields with
  | nil =>
    rw [insert, List.mem_singleton] at h
    exact .inl (congrArg Prod.snd h)
  | cons field rest ih =>
    rw [insert] at h
    split at h
    · rcases List.mem_cons.1 h with rfl | hrest
      · exact .inl rfl
      · exact .inr (List.mem_cons_of_mem _ hrest)
    · rcases List.mem_cons.1 h with rfl | hrest
      · exact .inr List.mem_cons_self
      · exact (ih hrest).imp_right (List.mem_cons_of_mem _)

theorem writable_insert (hv : v.writable = true) (h : ∀ f ∈ fields, f.2.writable = true) :
    ∀ f ∈ fields.insert name v, f.2.writable = true := by
  intro f hf
  rcases mem_insert hf with hnew | hold
  · exact hnew ▸ hv
  · exact h f hold

end Fields

theorem Value.writable_field? {v w : Value} {name : String} (h : v.writable = true)
    (hw : v.field? name = some w) : w.writable = true := by
  unfold Value.field? at hw
  split at hw
  · exact writable_object.1 h _ (Fields.mem_of_get? hw)
  · cases hw

theorem Value.writable_fieldOrNull {v : Value} (h : v.writable = true) (name : String) :
    (v.fieldOrNull name).writable = true := by
  rw [fieldOrNull]
  cases hfield : v.field? name with
  | none => rfl
  | some w => exact writable_field? h hfield

theorem written_eq {v : Value} (h : v.writable = true) : written v = .ok v.plain := by
  rw [written, if_pos h]

namespace Token

def Writable (token : Token) : Prop := ∀ v, token = .scalar v → v.writable = true

theorem writable_readMagnitude {negative : Bool} {cs rest : List Char} {v : Value}
    (h : readMagnitude negative cs = some (v, rest)) : v.writable = true := by
  obtain ⟨whole, -, h⟩ := Option.bind_eq_some_iff.1 h
  dsimp only at h
  split at h
  · split at h
    · cases h
    · rename_i short
      cases h
      exact Text.isWritable_signed (Nat.le_of_not_lt short)
  · cases h
    rfl

theorem writable_next {cs rest : List Char} {token : Token} (h : next cs = some (token, rest)) :
    token.Writable := by
  intro v hv
  subst hv
  unfold next at h
  split at h
  case h_1 => cases h
  case h_8 =>
    obtain ⟨x, -, hx⟩ := Option.map_eq_some_iff.1 h
    cases hx
    rfl
  case h_15 =>
    obtain ⟨x, hx, hv⟩ := Option.map_eq_some_iff.1 h
    cases hv
    exact writable_readMagnitude hx
  case h_16 =>
    obtain ⟨x, hx, hv⟩ := Option.map_eq_some_iff.1 h
    cases hv
    exact writable_readMagnitude hx
  all_goals
    cases h
    try rfl

theorem writable_all {cs : List Char} {tokens : List Token} (h : all cs = some tokens) :
    ∀ token ∈ tokens, token.Writable := by
  fun_induction all cs generalizing tokens with
  | case1 =>
    cases h
    exact nofun
  | case2 => cases h
  | case3 cs c rest hcs token rest' hnext _ ih =>
    obtain ⟨later, hlater, rfl⟩ := Option.map_eq_some_iff.1 h
    intro t ht
    rcases List.mem_cons.1 ht with rfl | ht
    · exact writable_next hnext
    · exact ih hlater t ht

end Token

def Frame.Writable : Frame → Prop
  | .array items => ∀ v ∈ items, v.writable = true
  | .object fields _ => ∀ f ∈ fields, f.2.writable = true

namespace Expecting

def Writable : Expecting → Prop
  | .value stack | .firstItem stack | .firstName stack => ∀ f ∈ stack, f.Writable
  | .nextName fields stack | .colon fields _ stack =>
    (∀ f ∈ fields, f.2.writable = true) ∧ ∀ f ∈ stack, f.Writable
  | .separator last stack => last.writable = true ∧ ∀ f ∈ stack, f.Writable

variable {state state' : Expecting} {token : Token} {stack : List Frame}

theorem writable_startValue (h : startValue stack token = some state)
    (hstack : ∀ f ∈ stack, f.Writable) (htoken : token.Writable) : state.Writable := by
  unfold startValue at h
  split at h
  · cases h
    exact hstack
  · cases h
    exact hstack
  · cases h
    exact ⟨htoken _ rfl, hstack⟩
  · cases h

theorem writable_step (h : state.step token = some state') (hstate : state.Writable)
    (htoken : token.Writable) : state'.Writable := by
  unfold step at h
  split at h
  case h_1 => exact writable_startValue h hstate htoken
  case h_2 =>
    cases h
    exact ⟨rfl, hstate⟩
  case h_3 => exact writable_startValue h (List.forall_mem_cons.2 ⟨nofun, hstate⟩) htoken
  case h_4 =>
    cases h
    exact ⟨rfl, hstate⟩
  case h_5 =>
    cases h
    exact ⟨nofun, hstate⟩
  case h_6 =>
    cases h
    exact hstate
  case h_7 =>
    cases h
    exact List.forall_mem_cons.2 hstate
  case h_8 =>
    cases h
    obtain ⟨hlast, hstack⟩ := hstate
    obtain ⟨hitems, hstack⟩ := List.forall_mem_cons.1 hstack
    exact List.forall_mem_cons.2 ⟨List.forall_mem_cons.2 ⟨hlast, hitems⟩, hstack⟩
  case h_9 v items stack =>
    cases h
    obtain ⟨hlast, hstack⟩ := hstate
    obtain ⟨hitems, hstack⟩ := List.forall_mem_cons.1 hstack
    have hall : ∀ u ∈ v :: items, u.writable = true := List.forall_mem_cons.2 ⟨hlast, hitems⟩
    exact ⟨Value.writable_array.2 fun u hu => hall u (List.mem_reverse.1 hu), hstack⟩
  case h_10 =>
    cases h
    obtain ⟨hlast, hstack⟩ := hstate
    obtain ⟨hfields, hstack⟩ := List.forall_mem_cons.1 hstack
    exact ⟨Fields.writable_insert hlast hfields, hstack⟩
  case h_11 =>
    cases h
    obtain ⟨hlast, hstack⟩ := hstate
    obtain ⟨hfields, hstack⟩ := List.forall_mem_cons.1 hstack
    exact ⟨Value.writable_object.2 (Fields.writable_insert hlast hfields), hstack⟩
  case h_12 => cases h

theorem writable_foldlM {tokens : List Token} (h : tokens.foldlM step state = some state')
    (hstate : state.Writable) (htokens : ∀ token ∈ tokens, token.Writable) : state'.Writable := by
  induction tokens generalizing state with
  | nil =>
    cases h
    exact hstate
  | cons token rest ih =>
    obtain ⟨next, hnext, hrest⟩ := Option.bind_eq_some_iff.1 h
    have htoken := htokens token List.mem_cons_self
    exact ih hrest (writable_step hnext hstate htoken)
      fun t ht => htokens t (List.mem_cons_of_mem _ ht)

end Expecting

theorem writable_ofTokens {tokens : List Token} {v : Value} (h : ofTokens tokens = some v)
    (htokens : ∀ token ∈ tokens, token.Writable) : v.writable = true := by
  unfold ofTokens at h
  split at h
  · rename_i last hfold
    cases h
    exact (Expecting.writable_foldlM hfold nofun htokens).1
  · cases h

theorem writable_read {s : String} {v : Value} (h : read s = some v) : v.writable = true := by
  obtain ⟨tokens, htokens, h⟩ := Option.bind_eq_some_iff.1 h
  split at h
  · exact writable_ofTokens h (Token.writable_all htokens)
  · cases h

end TimeWindow.Json
