import TimeWindow.Proofs.Key.Faithful
import TimeWindow.Settings

/-!
Settings for any environment. Whatever texts the variables hold, each setting comes to a valid
value: blanks around a text do not count, and a text that does not convert is as good as none.
-/

namespace TimeWindow

namespace Text

variable {drops : Char → Bool} {before cs after : List Char}

theorem trimBy_append (hbefore : ∀ c ∈ before, drops c = true) (hafter : ∀ c ∈ after, drops c = true) :
    trimBy drops (before ++ cs ++ after) = trimBy drops cs := by
  rw [trimBy, trimBy, List.append_assoc, List.dropWhile_append_of_pos hbefore, List.dropWhile_append]
  by_cases hblank : (cs.dropWhile drops).isEmpty = true
  · -- Nothing is left of the text, and the margin behind it goes with the one before.
    have hnone : after.dropWhile drops = [] := List.dropWhile_eq_nil_iff.2 hafter
    rw [if_pos hblank, hnone, List.isEmpty_iff.1 hblank]
  · have hreverse : ∀ c ∈ after.reverse, drops c = true :=
      fun c hc => hafter c (List.mem_reverse.1 hc)
    rw [if_neg hblank, List.reverse_append, List.dropWhile_append_of_pos hreverse]

theorem trim_append {before text after : String} (hbefore : ∀ c ∈ before.toList, isBlank c = true)
    (hafter : ∀ c ∈ after.toList, isBlank c = true) : trim (before ++ text ++ after) = trim text := by
  rw [trim, trim, String.toList_append, String.toList_append, trimBy_append hbefore hafter]

end Text

def Environment.unset (env : Environment) (name : String) : Environment :=
  env.filter (·.1 ≠ name)

namespace Environment

theorem lookup_cons_other {name other : String} (h : other ≠ name) (text : String)
    (env : Environment) : List.lookup other ((name, text) :: env) = env.lookup other := by
  rw [List.lookup_cons, beq_false_of_ne h]

theorem lookup_unset (env : Environment) (name other : String) :
    (env.unset name).lookup other = if other = name then none else env.lookup other := by
  induction env with
  | nil =>
    rw [unset, List.filter_nil, List.lookup_nil, ite_self]
  | cons entry rest ih =>
    obtain ⟨n, text⟩ := entry
    rw [unset] at ih ⊢
    by_cases hn : n = name
    · subst hn
      rw [List.filter_cons_of_neg (by simp), ih]
      by_cases hother : other = n
      · rw [if_pos hother, if_pos hother]
      · rw [if_neg hother, if_neg hother, lookup_cons_other hother]
    · rw [List.filter_cons_of_pos (by simpa using hn)]
      by_cases hother : other = n
      · subst hother
        rw [List.lookup_cons_self, if_neg hn, List.lookup_cons_self]
      · rw [lookup_cons_other hother, lookup_cons_other hother, ih]

end Environment

namespace Settings

variable {env env' : Environment} {name other value : String}

theorem raw_cons_self (env : Environment) (name value : String) :
    raw ((name, value) :: env) name = Text.trim value := by
  rw [raw, List.lookup_cons_self, Option.getD_some]

theorem raw_cons_other (h : other ≠ name) (value : String) (env : Environment) :
    raw ((name, value) :: env) other = raw env other := by
  rw [raw, Environment.lookup_cons_other h, raw]

theorem raw_unset_self (env : Environment) (name : String) : raw (env.unset name) name = "" := by
  rw [raw, Environment.lookup_unset, if_pos rfl]
  decide

theorem raw_unset_other (h : other ≠ name) (env : Environment) :
    raw (env.unset name) other = raw env other := by
  rw [raw, Environment.lookup_unset, if_neg h, raw]

theorem raw_cons_unset (h : other ≠ name) :
    raw ((name, value) :: env) other = raw (env.unset name) other := by
  rw [raw_cons_other h, raw_unset_other h]

section Setting

variable {α : Type} {default : α} {convert : String → Except Fault α} {e : Fault}

theorem setting_congr (h : raw env name = raw env' name) :
    setting env name default convert = setting env' name default convert := by
  rw [setting, setting, h]

theorem setting_of_ok {a : α} (h : convert (raw env name) = .ok a) (hne : raw env name ≠ "") :
    setting env name default convert = .ok (a, []) := by
  simp [setting, h, hne]

theorem setting_of_caught (h : convert (raw env name) = .error e) (hcaught : e.isCaught = true) :
    setting env name default convert =
      .ok (default, if (raw env name).isEmpty then [] else e.diagnostics) := by
  rw [setting]
  by_cases hempty : (raw env name).isEmpty = true
  · rw [if_pos hempty, if_pos hempty]
  · rw [if_neg hempty, if_neg hempty, h]
    dsimp only
    rw [if_pos hcaught]

theorem setting_unset (env : Environment) :
    setting (env.unset name) name default convert = .ok (default, []) := by
  rw [setting, raw_unset_self]
  rfl

theorem setting_cons_unset
    (h : other = name →
      ∃ e, convert (Text.trim value) = .error e ∧ e.isCaught = true ∧ e.diagnostics = []) :
    setting ((name, value) :: env) other default convert =
      setting (env.unset name) other default convert := by
  by_cases hother : other = name
  · subst hother
    obtain ⟨e, he, hcaught, hsilent⟩ := h rfl
    rw [← raw_cons_self env] at he
    rw [setting_unset, setting_of_caught he hcaught, hsilent, ite_self]
  · exact setting_congr (raw_cons_unset hother)

def Settles (convert : String → Except Fault α) : Prop :=
  ∀ text e, convert text = .error e → e.isCaught = true ∧ e.diagnostics = []

theorem Settles.exists_setting (h : Settles convert) (env : Environment) (name : String)
    (default : α) : ∃ a, (setting env name default convert).map Prod.fst = .ok a := by
  by_cases hempty : raw env name = ""
  · exact ⟨default, by rw [setting, hempty]; rfl⟩
  · cases hconvert : convert (raw env name) with
    | ok a => exact ⟨a, by rw [setting_of_ok hconvert hempty]; rfl⟩
    | error e => exact ⟨default, by rw [setting_of_caught hconvert (h _ _ hconvert).1]; rfl⟩

end Setting

theorem settles_flagOf : Settles flagOf := by
  intro text e h
  rw [flagOf] at h
  cases h

theorem settles_weekStartOf : Settles weekStartOf := by
  intro text e h
  obtain ⟨_, -, rfl⟩ := Except.mapError_eq_error_iff.1 h
  exact ⟨rfl, rfl⟩

theorem settles_integerOf : Settles integerOf := by
  intro text e h
  obtain ⟨_, -, rfl⟩ := Except.mapError_eq_error_iff.1 h
  exact ⟨rfl, rfl⟩

theorem decode_empty : ∃ d, Key.decode (.ofText "") = .error (.reported d) :=
  ⟨_, rfl⟩

theorem decode_today : Key.decode (.ofText Descriptor.today.key) = .ok ⟨.day, 1, .today⟩ :=
  Key.decode_key (by decide)

theorem fallbackOf_of_decode {text : String} {w : Window} (h : Key.decode (.ofText text) = .ok w) :
    fallbackOf text = .ok w.descriptor := by
  rw [fallbackOf]
  by_cases htoday : text = Descriptor.today.key
  · subst htoday
    cases decode_today.symm.trans h
    rw [if_pos rfl]
    rfl
  · rw [if_neg htoday, h]
    dsimp only
    rw [Descriptor.ofValues_eq (Key.isWritable_of_decode h)]
    rfl

theorem fallbackOf_of_reported {text : String} {d : Diagnostic}
    (h : Key.decode (.ofText text) = .error (.reported d)) :
    fallbackOf text = .error (.key text d) := by
  have htoday : text ≠ Descriptor.today.key := by
    rintro rfl
    cases decode_today.symm.trans h
  rw [fallbackOf, if_neg htoday, h]

theorem fallback_congr
    (h : raw env "RELATIVE_TIME_FALLBACK_KEY" = raw env' "RELATIVE_TIME_FALLBACK_KEY") :
    fallback env = fallback env' :=
  setting_congr h

theorem fallback_of_decode {w : Window}
    (h : Key.decode (.ofText (raw env "RELATIVE_TIME_FALLBACK_KEY")) = .ok w) :
    fallback env = .ok (w.descriptor, []) := by
  refine setting_of_ok (fallbackOf_of_decode h) fun hempty => ?_
  obtain ⟨d, hd⟩ := decode_empty
  rw [hempty, hd] at h
  cases h

theorem fallback_of_reported {d : Diagnostic}
    (h : Key.decode (.ofText (raw env "RELATIVE_TIME_FALLBACK_KEY")) = .error (.reported d)) :
    fallback env =
      .ok (.today, if (raw env "RELATIVE_TIME_FALLBACK_KEY").isEmpty then [] else [d]) := by
  rw [fallback, setting_of_caught (fallbackOf_of_reported h) rfl, Fault.diagnostics]

theorem fallback_unset (env : Environment) :
    fallback (env.unset "RELATIVE_TIME_FALLBACK_KEY") = .ok (.today, []) :=
  setting_unset env

theorem exists_fallback (env : Environment) :
    ∃ w ds, fallback env = .ok (w.descriptor, ds) ∧
      (∀ v, Key.decode (.ofText (raw env "RELATIVE_TIME_FALLBACK_KEY")) = .ok v → w = v ∧ ds = []) ∧
      ((∀ v, Key.decode (.ofText (raw env "RELATIVE_TIME_FALLBACK_KEY")) ≠ .ok v) →
        w.descriptor = .today) := by
  obtain ⟨w, hw⟩ | ⟨d, hd⟩ := Key.decode_text_cases (raw env "RELATIVE_TIME_FALLBACK_KEY")
  · refine ⟨w, [], fallback_of_decode hw, fun v hv => ?_, fun hnone => absurd hw (hnone w)⟩
    cases hw.symm.trans hv
    exact ⟨rfl, rfl⟩
  · refine ⟨⟨.day, 1, .today⟩, _, fallback_of_reported hd, fun v hv => ?_, fun _ => rfl⟩
    cases hd.symm.trans hv

structure Agree (env env' : Environment) : Prop where
  options : (options env).map Prod.fst = (options env').map Prod.fst
  completionEnabled : completionEnabled env = completionEnabled env'
  completionTimeout : completionTimeout env = completionTimeout env'
  completionAttempts : completionAttempts env = completionAttempts env'

structure Unconvertible (name text : String) : Prop where
  mem : name ∈ ["RELATIVE_TIME_WEEK_START", "RELATIVE_TIME_FALLBACK_KEY",
    "LLM_COMPLETION_TIMEOUT_SECONDS", "LLM_COMPLETION_MAX_ATTEMPTS"]
  weekStart : name = "RELATIVE_TIME_WEEK_START" →
    ∀ start : WeekStart, Text.lower (Text.trim text) ≠ start.text
  fallback : name = "RELATIVE_TIME_FALLBACK_KEY" →
    ∀ w, Key.decode (.ofText (Text.trim text)) ≠ .ok w
  timeout : name = "LLM_COMPLETION_TIMEOUT_SECONDS" →
    ∀ n, Text.readInteger (Text.trim text) ≠ .ok n
  attempts : name = "LLM_COMPLETION_MAX_ATTEMPTS" → ∀ n, Text.readInteger (Text.trim text) ≠ .ok n

theorem exists_untilNow (env : Environment) : ∃ on, untilNow env = .ok on :=
  settles_flagOf.exists_setting env _ _

theorem exists_weekStart (env : Environment) : ∃ start, weekStart env = .ok start :=
  settles_weekStartOf.exists_setting env _ _

theorem exists_completionEnabled (env : Environment) : ∃ on, completionEnabled env = .ok on :=
  settles_flagOf.exists_setting env _ _

theorem exists_completionTimeout (env : Environment) : ∃ n, completionTimeout env = .ok n :=
  settles_integerOf.exists_setting env _ _

theorem exists_completionLimit (env : Environment) : ∃ n, completionLimit env = .ok n :=
  settles_integerOf.exists_setting env _ _

theorem completionAttempts_of_limit {limit : Int} (h : completionLimit env = .ok limit) :
    completionAttempts env = .ok (max 1 (min limit 2)) := by
  rw [completionAttempts, h]
  rfl

theorem exists_options {d : Descriptor} {ds : List Diagnostic} (h : fallback env = .ok (d, ds)) :
    ∃ o, options env = .ok (o, ds) ∧ o.fallback = d := by
  obtain ⟨on, hon⟩ := exists_untilNow env
  obtain ⟨start, hstart⟩ := exists_weekStart env
  refine ⟨⟨on, d, start⟩, ?_, rfl⟩
  rw [options, hon, h, hstart]
  rfl

theorem options_congr (huntil : untilNow env = untilNow env')
    (hfallback : (fallback env).map Prod.fst = (fallback env').map Prod.fst)
    (hweek : weekStart env = weekStart env') :
    (options env).map Prod.fst = (options env').map Prod.fst := by
  obtain ⟨w, ds, hw, -⟩ := exists_fallback env
  obtain ⟨w', ds', hw', -⟩ := exists_fallback env'
  obtain ⟨on, hon⟩ := exists_untilNow env
  obtain ⟨start, hstart⟩ := exists_weekStart env
  rw [hw, hw'] at hfallback
  rw [options, options, ← huntil, ← hweek, hw, hw', hon, hstart]
  exact congrArg (Except.map fun d : Descriptor => Options.mk on d start) hfallback

theorem options_diagnostics (env : Environment) :
    (options env).map Prod.snd = (fallback env).map Prod.snd := by
  obtain ⟨w, ds, hw, -⟩ := exists_fallback env
  obtain ⟨o, ho, -⟩ := exists_options hw
  rw [ho, hw]
  rfl

theorem attempts_congr (h : completionLimit env = completionLimit env') :
    completionAttempts env = completionAttempts env' := by
  rw [completionAttempts, completionAttempts, h]

theorem agree_of_raw (h : ∀ name, raw env name = raw env' name) :
    Agree env env' ∧ (options env).map Prod.snd = (options env').map Prod.snd := by
  have hfallback : fallback env = fallback env' := fallback_congr (h _)
  have hsetting {α : Type} (name : String) (default : α) (convert : String → Except Fault α) :
      (setting env name default convert).map Prod.fst =
        (setting env' name default convert).map Prod.fst :=
    congrArg (Except.map Prod.fst) (setting_congr (h name))
  refine ⟨⟨options_congr (hsetting _ _ _) (congrArg _ hfallback) (hsetting _ _ _),
    hsetting _ _ _, hsetting _ _ _, attempts_congr (hsetting _ _ _)⟩, ?_⟩
  rw [options_diagnostics, options_diagnostics, hfallback]

theorem agree_margins {before text after : String}
    (hbefore : ∀ c ∈ before.toList, Text.isBlank c = true)
    (hafter : ∀ c ∈ after.toList, Text.isBlank c = true) (name : String) (env : Environment) :
    Agree ((name, before ++ text ++ after) :: env) ((name, text) :: env) ∧
      (options ((name, before ++ text ++ after) :: env)).map Prod.snd =
        (options ((name, text) :: env)).map Prod.snd := by
  apply agree_of_raw
  intro other
  by_cases hother : other = name
  · subst hother
    rw [raw_cons_self, raw_cons_self, Text.trim_append hbefore hafter]
  · rw [raw_cons_other hother, raw_cons_other hother]

theorem weekStartOf_eq_error {text : String}
    (h : ∀ start : WeekStart, Text.lower text ≠ start.text) : ∃ e, weekStartOf text = .error e := by
  have hnone : WeekStart.ofText? (Text.lower text) = none := by
    rw [WeekStart.ofText?, List.find?_eq_none]
    intro start _ hsame
    exact h start (of_decide_eq_true hsame).symm
  have hvalue : (Json.Value.ofText (Text.lower text)).string?.bind WeekStart.ofText? =
      WeekStart.ofText? (Text.lower text) := rfl
  rw [weekStartOf, WeekStart.ofValue, hvalue, hnone]
  exact ⟨_, rfl⟩

theorem integerOf_eq_error {text : String} (h : ∀ n, Text.readInteger text ≠ .ok n) :
    ∃ e, integerOf text = .error e := by
  rw [integerOf]
  cases hread : Text.readInteger text with
  | ok n => exact absurd hread (h n)
  | error e => exact ⟨_, rfl⟩

theorem fallback_cons_unset (h : name = "RELATIVE_TIME_FALLBACK_KEY" →
    ∀ w, Key.decode (.ofText (Text.trim value)) ≠ .ok w) (env : Environment) :
    (fallback ((name, value) :: env)).map Prod.fst = (fallback (env.unset name)).map Prod.fst := by
  by_cases hname : name = "RELATIVE_TIME_FALLBACK_KEY"
  · subst hname
    obtain ⟨w, hw⟩ | ⟨d, hd⟩ := Key.decode_text_cases (Text.trim value)
    · exact absurd hw (h rfl w)
    · have hread : Key.decode (.ofText (raw (("RELATIVE_TIME_FALLBACK_KEY", value) :: env)
          "RELATIVE_TIME_FALLBACK_KEY")) = .error (.reported d) := by
        rw [raw_cons_self]
        exact hd
      rw [fallback_of_reported hread, fallback_unset, Except.map, Except.map]
  · rw [fallback_congr (raw_cons_unset (Ne.symm hname))]

theorem ne_of_unconvertible (h : Unconvertible name value)
    (hother : other ∈ ["RELATIVE_TIME_FORCE_UNTIL_NOW", "ENABLE_LLM_COMPLETION"]) :
    other ≠ name := by
  rintro rfl
  have hmem := h.mem
  simp only [List.mem_cons, List.not_mem_nil, or_false] at hother
  rcases hother with rfl | rfl
  · exact absurd hmem (by decide)
  · exact absurd hmem (by decide)

theorem flag_cons_unset (h : Unconvertible name value)
    (hother : other ∈ ["RELATIVE_TIME_FORCE_UNTIL_NOW", "ENABLE_LLM_COMPLETION"])
    (env : Environment) (default : Bool) :
    setting ((name, value) :: env) other default flagOf =
      setting (env.unset name) other default flagOf :=
  setting_congr (raw_cons_unset (ne_of_unconvertible h hother))

theorem integer_cons_unset (h : other = name → ∀ n, Text.readInteger (Text.trim value) ≠ .ok n)
    (env : Environment) (default : Int) :
    setting ((name, value) :: env) other default integerOf =
      setting (env.unset name) other default integerOf := by
  refine setting_cons_unset fun hname => ?_
  obtain ⟨e, he⟩ := integerOf_eq_error (h hname)
  exact ⟨e, he, settles_integerOf _ _ he⟩

theorem agree_unset (h : Unconvertible name value) (env : Environment) :
    Agree ((name, value) :: env) (env.unset name) := by
  have huntil : untilNow ((name, value) :: env) = untilNow (env.unset name) :=
    congrArg (Except.map Prod.fst) (flag_cons_unset h (by decide) env true)
  have hweek : weekStart ((name, value) :: env) = weekStart (env.unset name) := by
    refine congrArg (Except.map Prod.fst) (setting_cons_unset fun hname => ?_)
    obtain ⟨e, he⟩ := weekStartOf_eq_error (h.weekStart hname.symm)
    exact ⟨e, he, settles_weekStartOf _ _ he⟩
  exact {
    options := options_congr huntil (fallback_cons_unset h.fallback env) hweek
    completionEnabled := congrArg (Except.map Prod.fst) (flag_cons_unset h (by decide) env false)
    completionTimeout :=
      congrArg (Except.map Prod.fst) (integer_cons_unset (fun hname => h.timeout hname.symm) env 5)
    completionAttempts := attempts_congr
      (congrArg (Except.map Prod.fst) (integer_cons_unset (fun hname => h.attempts hname.symm) env 1)) }

theorem diagnostics_unset (h : Unconvertible name value) (env : Environment) :
    (name = "RELATIVE_TIME_FALLBACK_KEY" ∧ Text.trim value ≠ "" ∧
      (options (env.unset name)).map Prod.snd = .ok [] ∧ ∃ d : Diagnostic,
        (options ((name, value) :: env)).map Prod.snd = .ok [d] ∧
        d.code = "relative_time.decode_failed" ∧
        d.context = [(.text "key", .ofText (Text.trim value))]) ∨
    ((name = "RELATIVE_TIME_FALLBACK_KEY" → Text.trim value = "") ∧
      (options ((name, value) :: env)).map Prod.snd =
        (options (env.unset name)).map Prod.snd) := by
  rw [options_diagnostics, options_diagnostics]
  by_cases hname : name = "RELATIVE_TIME_FALLBACK_KEY"
  · subst hname
    obtain ⟨w, hw⟩ | ⟨d, hd⟩ := Key.decode_text_cases (Text.trim value)
    · exact absurd hw (h.fallback rfl w)
    · obtain ⟨hcode, hcontext⟩ := Key.decode_reported hd
      have hread : Key.decode (.ofText (raw (("RELATIVE_TIME_FALLBACK_KEY", value) :: env)
          "RELATIVE_TIME_FALLBACK_KEY")) = .error (.reported d) := by
        rw [raw_cons_self]
        exact hd
      rw [fallback_of_reported hread, fallback_unset, raw_cons_self]
      by_cases hblank : Text.trim value = ""
      · refine .inr ⟨fun _ => hblank, ?_⟩
        rw [hblank]
        rfl
      · refine .inl ⟨rfl, hblank, rfl, d, ?_, hcode, hcontext⟩
        simp [Except.map, hblank]
  · refine .inr ⟨fun h => absurd h hname, ?_⟩
    rw [fallback_congr (raw_cons_unset (Ne.symm hname))]

/-- The settings are valid in any environment, and none of them fails. A fallback goes by the key of
its own fields, blanks around a text do not count, and a text that does not convert is as good as
none, except that it is reported where it stands for the fallback. -/
theorem settings_always_valid (env : Environment) :
    let key := raw env "RELATIVE_TIME_FALLBACK_KEY"
    (∃ (o : Options) (ds : List Diagnostic), options env = .ok (o, ds) ∧
      o.fallback.key =
        Key.write o.fallback.unit.text o.fallback.count o.fallback.reference.text ∧
      (∀ w, Key.decode (.ofText key) = .ok w → o.fallback.toWindow = w ∧ ds = []) ∧
      ((∀ w, Key.decode (.ofText key) ≠ .ok w) → o.fallback = .today)) ∧
    (∃ enabled, completionEnabled env = .ok enabled) ∧
    (∃ timeout, completionTimeout env = .ok timeout) ∧
    (completionAttempts env = .ok 1 ∨ completionAttempts env = .ok 2) ∧
    (∀ name before text after : String, (∀ c ∈ before.toList, Text.isBlank c = true) →
      (∀ c ∈ after.toList, Text.isBlank c = true) →
        let padded := (name, before ++ text ++ after) :: env
        let plain := (name, text) :: env
        Agree padded plain ∧ (options padded).map Prod.snd = (options plain).map Prod.snd) ∧
    ∀ name text : String, Unconvertible name text →
      let given := (name, text) :: env
      let unset := env.unset name
      Agree given unset ∧
        ((name = "RELATIVE_TIME_FALLBACK_KEY" ∧ Text.trim text ≠ "" ∧
          (options unset).map Prod.snd = .ok [] ∧ ∃ d : Diagnostic,
            (options given).map Prod.snd = .ok [d] ∧ d.code = "relative_time.decode_failed" ∧
            d.context = [(.text "key", .ofText (Text.trim text))]) ∨
        ((name = "RELATIVE_TIME_FALLBACK_KEY" → Text.trim text = "") ∧
          (options given).map Prod.snd = (options unset).map Prod.snd)) := by
  intro key
  refine ⟨?_, exists_completionEnabled env, exists_completionTimeout env, ?_, ?_, ?_⟩
  · obtain ⟨w, ds, hw, hdecoded, hrefused⟩ := exists_fallback env
    obtain ⟨o, ho, hfallback⟩ := exists_options hw
    refine ⟨o, ds, ho, ?_⟩
    rw [hfallback]
    exact ⟨rfl, hdecoded, hrefused⟩
  · obtain ⟨limit, hlimit⟩ := exists_completionLimit env
    rw [completionAttempts_of_limit hlimit, Except.ok.injEq, Except.ok.injEq]
    omega
  · intro name before text after hbefore hafter
    exact agree_margins hbefore hafter name env
  · intro name text h
    exact ⟨agree_unset h env, diagnostics_unset h env⟩

/-- A key with blanks around it and a numeral that is not canonical, and a day that no week starts
on. -/
theorem settings_always_valid_padded :
    let key := "unit=(Day)&count=(-030)&referenceTime=(now)"
    let env : Environment := [("RELATIVE_TIME_FALLBACK_KEY", " " ++ key ++ "\n")]
    (∃ o, options env = .ok (o, []) ∧
      o.fallback = ⟨⟨.day, -30, .now⟩, "unit=(Day)&count=(-30)&referenceTime=(now)"⟩) ∧
    Agree env [("RELATIVE_TIME_FALLBACK_KEY", key)] ∧
    Agree (("RELATIVE_TIME_WEEK_START", "friday") :: env) env := by
  have hdecode : Key.decode (.ofText (Text.trim
      (" " ++ "unit=(Day)&count=(-030)&referenceTime=(now)" ++ "\n"))) = .ok ⟨.day, -30, .now⟩ := by
    cbv
  intro key env
  have hfriday : Unconvertible "RELATIVE_TIME_WEEK_START" "friday" :=
    { mem := by decide
      weekStart := fun _ start => by cases start <;> decide +kernel
      fallback := fun h => absurd h (by decide)
      timeout := fun h => absurd h (by decide)
      attempts := fun h => absurd h (by decide) }
  have hunset : env.unset "RELATIVE_TIME_WEEK_START" = env := rfl
  obtain ⟨⟨o, ds, ho, hkey, hdecoded, -⟩, -, -, -, -, hfault⟩ := settings_always_valid env
  obtain ⟨-, -, -, -, hmargins, -⟩ := settings_always_valid []
  rw [raw_cons_self] at hdecoded
  obtain ⟨hwindow, rfl⟩ := hdecoded _ hdecode
  have hwritten : Key.write "Day" (-30) "now" = "unit=(Day)&count=(-30)&referenceTime=(now)" := by
    decide
  refine ⟨⟨o, ho, ?_⟩, ?_, ?_⟩
  · generalize o.fallback = d at hwindow hkey ⊢
    obtain ⟨w, k⟩ := d
    cases hwindow
    exact congrArg (Descriptor.mk ⟨.day, -30, .now⟩) (hkey.trans hwritten)
  · exact (hmargins "RELATIVE_TIME_FALLBACK_KEY" " " key "\n" (List.all_eq_true.1 (by decide))
      (List.all_eq_true.1 (by decide))).1
  · rw [← hunset]
    exact (hfault "RELATIVE_TIME_WEEK_START" "friday" hfriday).1

end Settings

end TimeWindow
