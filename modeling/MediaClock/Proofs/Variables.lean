import MediaClock.Proofs.Names
import MediaClock.Settings

/-!
# What variables are understood

Each of the four variables that settings are read from has a `Rule`: the texts that are understood,
and the error for any other text.  The rules stand in the order in which the variables are read, so
the first rule that is broken decides with which error the reading fails, and settings are read
exactly when no rule is broken.

What is read is told by `IsReadFrom`, variable by variable.  Settings that were read are written
back as variables from which they are read again.
-/

namespace MediaClock

/-! ### Rules -/

/-- A rule for the text of a variable. -/
structure Rule where
  /-- The variable. -/
  key : String
  /-- Whether a text is understood. -/
  Accepts : String → Prop
  /-- The error for a text that is not. -/
  error : String → SettingsError
  /-- What the error asks for. -/
  wanted : String
  /-- The text as the error shows it. -/
  shown : String → String := id

namespace Rule

/-- That a variable is present with a text that is not understood. -/
def IsBroken (rule : Rule) (vars : Variables) : Prop :=
  ∃ text, vars rule.key = some text ∧ ¬ rule.Accepts text

/-- A conversion is spelled in either case. -/
def conversion : Rule where
  key := "PROVIDER_TIMEBASE_CONVERSION"
  Accepts text := SpelledAlike text "float" ∨ SpelledAlike text "exact"
  error text := .unknownConversion text.toLower
  wanted := "'float' or 'exact'"
  shown := String.toLower

/-- Whether wraps are cleared is spelled exactly. -/
def clearWraps : Rule where
  key := "PROVIDER_CLEAR_WRAPAROUND_ON_STOP"
  Accepts text := text = "true" ∨ text = "false"
  error := .unclearClearWraps
  wanted := "true or false"

/-- A level is spelled in either case. -/
def logLevel : Rule where
  key := "LOG_LEVEL"
  Accepts text := ∃ level ∈ ["trace", "debug", "info", "warn", "error"], SpelledAlike text level
  error text := .logging (.unknownLevel text.toLower)
  wanted := "one of [\"trace\", \"debug\", \"info\", \"warn\", \"error\"]"
  shown := String.toLower

/-- Whether the log is written as JSON is spelled exactly. -/
def logJson : Rule where
  key := "LOG_JSON"
  Accepts text := text = "true" ∨ text = "false"
  error text := .logging (.unclearJson text)
  wanted := "true or false"

/-- The rules in the order in which the variables are read. -/
def all : List Rule := [conversion, clearWraps, logLevel, logJson]

end Rule

/-- That an error is the one of the first of some rules that variables break. -/
def IsFirstFault (vars : Variables) (rules : List Rule) (e : SettingsError) : Prop :=
  ∃ before rule behind text, rules = before ++ rule :: behind
    ∧ (∀ earlier ∈ before, ¬ earlier.IsBroken vars)
    ∧ vars rule.key = some text ∧ ¬ rule.Accepts text ∧ e = rule.error text

/-! ### Values -/

/-- That a value is read from a variable: it is spelled by the text of the variable, or it is the
default if the variable is absent. -/
def IsRead {α : Type} (vars : Variables) (key : String) (absent : α) (Spells : String → α → Prop)
    (a : α) : Prop :=
  match vars key with
  | none => a = absent
  | some text => Spells text a

/-- That settings are read from variables. -/
structure Settings.IsReadFrom (s : Settings) (vars : Variables) : Prop where
  conversion : IsRead vars "PROVIDER_TIMEBASE_CONVERSION" Conversion.exact
    (fun text conversion => SpelledAlike text (name conversion)) s.clock.conversion
  clearWraps : IsRead vars "PROVIDER_CLEAR_WRAPAROUND_ON_STOP" false
    (fun text b => text = boolText b) s.clock.clearWraps
  level : ∃ level : LogLevel, s.logging.level = name level ∧ IsRead vars "LOG_LEVEL" LogLevel.info
    (fun text level => SpelledAlike text (name level)) level
  json : IsRead vars "LOG_JSON" false (fun text b => text = boolText b) s.logging.json

variable {α β ε : Type} {vars : Variables} {key : String}

/-! ### Reading one variable -/

section Readers

theorem boolOfText?_eq_some_iff {text : String} {b : Bool} :
  boolOfText? text = some b ↔ text = boolText b
  := by
  rw [boolOfText?]
  by_cases yes : text = "true"
  · cases b <;> simp [yes, boolText]
  · by_cases no : text = "false"
    · cases b <;> simp [no, boolText]
    · cases b <;> simp [yes, no, boolText]

/-- A truth value is read as it is spelled. -/
theorem readBool_eq_ok_iff {absent : Bool} {unclear : String → ε} {b : Bool} :
  readBool vars key absent unclear = .ok b
    ↔ IsRead vars key absent (fun text b => text = boolText b) b
  := by
  rw [readBool, IsRead]
  cases vars key with
  | none => simp [eq_comm]
  | some text =>
    simp only [← boolOfText?_eq_some_iff]
    cases boolOfText? text <;> simp

/-- A text that spells no truth value is an error. -/
theorem readBool_eq_error_iff {absent : Bool} {unclear : String → ε} {e : ε} :
  readBool vars key absent unclear = .error e
    ↔ ∃ text, vars key = some text ∧ ¬ (text = "true" ∨ text = "false") ∧ e = unclear text
  := by
  rw [readBool]
  cases vars key with
  | none => simp
  | some text =>
    have spells : boolOfText? text = none ↔ ¬ (text = "true" ∨ text = "false") := by
      simp only [Option.eq_none_iff_forall_ne_some, ne_eq, boolOfText?_eq_some_iff,
        Bool.forall_bool, boolText, not_or, and_comm]
    simp only [Option.some_inj, exists_eq_left', ← spells]
    cases boolOfText? text <;> simp [eq_comm]

section Named

variable [Named α] [LawfulNamed α]

/-- A value is read in lower case from the texts that are spelled like its name. -/
theorem ofName?_toLower_eq_some_iff (lower : ∀ a : α, IsLower (name a)) {text : String} {a : α} :
  Named.ofName? text.toLower = some a ↔ SpelledAlike text (name a)
  := by rw [ofName?_eq_some_iff, toLower_eq_iff (lower a)]

/-- A named value is read as it is spelled in either case. -/
theorem readNamed_eq_ok_iff (lower : ∀ a : α, IsLower (name a)) {absent : α}
    {unknown : String → ε} {a : α} :
  readNamed vars key absent unknown = .ok a
    ↔ IsRead vars key absent (fun text a => SpelledAlike text (name a)) a
  := by
  rw [readNamed, IsRead]
  cases vars key with
  | none => simp [eq_comm]
  | some text =>
    simp only [← ofName?_toLower_eq_some_iff lower]
    cases (Named.ofName? text.toLower : Option α) <;> simp

/-- A text that spells no name is an error, which shows it in lower case. -/
theorem readNamed_eq_error_iff (lower : ∀ a : α, IsLower (name a)) {absent : α}
    {unknown : String → ε} {e : ε} :
  readNamed vars key absent unknown = .error e
    ↔ ∃ text, vars key = some text ∧ ¬ (∃ a : α, SpelledAlike text (name a))
      ∧ e = unknown text.toLower
  := by
  rw [readNamed]
  cases vars key with
  | none => simp
  | some text =>
    have spells : (Named.ofName? text.toLower : Option α) = none
        ↔ ¬ ∃ a : α, SpelledAlike text (name a) := by
      simp only [Option.eq_none_iff_forall_ne_some, ne_eq, ofName?_toLower_eq_some_iff lower,
        not_exists]
    simp only [Option.some_inj, exists_eq_left', ← spells]
    cases (Named.ofName? text.toLower : Option α) <;> simp [eq_comm]

end Named

end Readers

/-! ### Reading one variable after another -/

theorem bind_eq_ok_iff {x : Except ε α} {f : α → Except ε β} {b : β} :
  x >>= f = .ok b ↔ ∃ a, x = .ok a ∧ f a = .ok b
  := by cases x <;> simp [bind, Except.bind]

theorem bind_eq_error_iff {x : Except ε α} {f : α → Except ε β} {e : ε} :
  x >>= f = .error e ↔ x = .error e ∨ ∃ a, x = .ok a ∧ f a = .error e
  := by cases x <;> simp [bind, Except.bind]

theorem mapError_bind {ε' : Type} (x : Except ε α) (f : α → Except ε β) (g : ε → ε') :
  (x >>= f).mapError g = x.mapError g >>= fun a => (f a).mapError g
  := by cases x <;> rfl

theorem mapError_readBool {ε' : Type} (absent : Bool) (unclear : String → ε) (g : ε → ε') :
  (readBool vars key absent unclear).mapError g = readBool vars key absent (g ∘ unclear)
  := by
  rw [readBool, readBool]
  cases vars key with
  | none => rfl
  | some text =>
    dsimp only
    cases boolOfText? text <;> rfl

theorem mapError_readNamed {ε' : Type} [Named α] (absent : α) (unknown : String → ε) (g : ε → ε') :
  (readNamed vars key absent unknown).mapError g = readNamed vars key absent (g ∘ unknown)
  := by
  rw [readNamed, readNamed]
  cases vars key with
  | none => rfl
  | some text =>
    dsimp only
    cases (Named.ofName? text.toLower : Option α) <;> rfl

/-- That a reading fails exactly when variables break a rule, with the error of the rule. -/
def Rule.Governs (rule : Rule) (vars : Variables) (x : Except SettingsError α) : Prop :=
  ∀ e, x = .error e ↔ ∃ text, vars rule.key = some text ∧ ¬ rule.Accepts text ∧ e = rule.error text

theorem isFirstFault_cons {rule : Rule} {rules : List Rule} {e : SettingsError} :
  IsFirstFault vars (rule :: rules) e
    ↔ (∃ text, vars rule.key = some text ∧ ¬ rule.Accepts text ∧ e = rule.error text)
      ∨ ¬ rule.IsBroken vars ∧ IsFirstFault vars rules e
  := by
  constructor
  · rintro ⟨before, broken, behind, text, split, kept, fault⟩
    cases before with
    | nil =>
      obtain ⟨rfl, -⟩ := List.cons.inj split
      exact .inl ⟨text, fault⟩
    | cons first before =>
      obtain ⟨rfl, later⟩ := List.cons.inj split
      obtain ⟨kept, others⟩ := List.forall_mem_cons.mp kept
      exact .inr ⟨kept, before, broken, behind, text, later, others, fault⟩
  · rintro (⟨text, fault⟩ | ⟨kept, before, broken, behind, text, rfl, others, fault⟩)
    · exact ⟨[], rule, rules, text, rfl, List.forall_mem_nil _, fault⟩
    · exact ⟨rule :: before, broken, behind, text, rfl, List.forall_mem_cons.mpr ⟨kept, others⟩,
        fault⟩

/-- The first fault of a reading that goes on with another one is its own, or that of the other
one. -/
theorem Rule.Governs.bind {rule : Rule} {rules : List Rule} {x : Except SettingsError α}
    (governs : rule.Governs vars x) {f : α → Except SettingsError β} {e : SettingsError}
    (rest : ∀ a, f a = .error e ↔ IsFirstFault vars rules e) :
  x >>= f = .error e ↔ IsFirstFault vars (rule :: rules) e
  := by
  have kept : (∃ a, x = .ok a) ↔ ¬ rule.IsBroken vars := by
    cases x with
    | ok a =>
      have sound : ¬ rule.IsBroken vars := by
        rintro ⟨text, present, refused⟩
        cases (governs (rule.error text)).mpr ⟨text, present, refused, rfl⟩
      simp [sound]
    | error e' =>
      obtain ⟨text, present, refused, -⟩ := (governs e').mp rfl
      have broken : rule.IsBroken vars := ⟨text, present, refused⟩
      simp [broken]
  rw [bind_eq_error_iff, isFirstFault_cons, governs e, ← kept]
  simp only [rest, exists_and_right]

/-- Some fault is the first one exactly when a rule is broken. -/
theorem exists_isFirstFault_iff {rules : List Rule} :
  (∃ e, IsFirstFault vars rules e) ↔ ∃ rule ∈ rules, rule.IsBroken vars
  := by
  induction rules with
  | nil =>
    constructor
    · rintro ⟨e, before, rule, behind, text, split, -⟩
      simp at split
    · rintro ⟨rule, ⟨⟩, -⟩
  | cons rule rules ih =>
    simp only [isFirstFault_cons, List.exists_mem_cons_iff, ← ih]
    constructor
    · rintro ⟨e, ⟨text, present, refused, -⟩ | ⟨-, fault⟩⟩
      · exact .inl ⟨text, present, refused⟩
      · exact .inr ⟨e, fault⟩
    · by_cases broken : rule.IsBroken vars
      · obtain ⟨text, present, refused⟩ := broken
        exact fun _ => ⟨rule.error text, .inl ⟨text, present, refused, rfl⟩⟩
      · rintro (broken' | ⟨e, fault⟩)
        · exact absurd broken' broken
        · exact ⟨e, .inr ⟨broken, fault⟩⟩

namespace Settings

/-! ### Reading all variables -/

/-- The variables are read one after another. -/
theorem read_eq (vars : Variables) :
  read vars = do
    let conversion ← readNamed vars Variables.conversion Conversion.exact .unknownConversion
    let clearWraps ← readBool vars Variables.clearWraps false .unclearClearWraps
    let level ← readNamed vars Variables.logLevel LogLevel.info (.logging <| .unknownLevel ·)
    let json ← readBool vars Variables.logJson false (.logging <| .unclearJson ·)
    return ⟨⟨conversion, clearWraps⟩, ⟨name level, json⟩⟩
  := by
  rw [read, LogSettings.read]
  simp only [mapError_bind, mapError_readNamed, mapError_readBool, bind_assoc]
  rfl

theorem exists_conversion_iff (p : String → Prop) :
  (∃ conversion : Conversion, p (name conversion)) ↔ p "float" ∨ p "exact"
  := by
  constructor
  · rintro ⟨conversion, h⟩
    cases conversion with
    | float => exact .inl h
    | exact => exact .inr h
  · rintro (h | h)
    · exact ⟨.float, h⟩
    · exact ⟨.exact, h⟩

/-- The names of the levels, from the most detailed one. -/
theorem exists_logLevel_iff (p : String → Prop) :
  (∃ level : LogLevel, p (name level))
    ↔ ∃ level ∈ ["trace", "debug", "info", "warn", "error"], p level
  := by
  constructor
  · rintro ⟨level, h⟩
    exact ⟨name level, by cases level <;> decide, h⟩
  · rintro ⟨text, mem, h⟩
    obtain ⟨level, -, rfl⟩ := List.mem_map.mp
      (show text ∈ (Named.values : List LogLevel).map name from mem)
    exact ⟨level, h⟩

theorem isLower_conversion (conversion : Conversion) :
  IsLower (name conversion)
  := by cases conversion <;> decide

theorem isLower_logLevel (level : LogLevel) :
  IsLower (name level)
  := by cases level <;> decide

/-- The first rule that is broken decides with which error the reading fails. -/
theorem read_eq_error_iff (vars : Variables) (e : SettingsError) :
  read vars = .error e ↔ IsFirstFault vars Rule.all e
  := by
  have conversion : Rule.conversion.Governs vars
      (readNamed vars Variables.conversion Conversion.exact .unknownConversion) := by
    intro e
    rw [readNamed_eq_error_iff isLower_conversion]
    simp only [exists_conversion_iff]
    rfl
  have clearWraps : Rule.clearWraps.Governs vars
      (readBool vars Variables.clearWraps false .unclearClearWraps) :=
    fun e => readBool_eq_error_iff
  have level : Rule.logLevel.Governs vars
      (readNamed vars Variables.logLevel LogLevel.info (.logging <| .unknownLevel ·)) := by
    intro e
    rw [readNamed_eq_error_iff isLower_logLevel]
    simp only [exists_logLevel_iff]
    rfl
  have json : Rule.logJson.Governs vars
      (readBool vars Variables.logJson false (.logging <| .unclearJson ·)) :=
    fun e => readBool_eq_error_iff
  rw [read_eq]
  apply conversion.bind
  intro c
  apply clearWraps.bind
  intro w
  apply level.bind
  intro l
  apply json.bind
  intro j
  constructor
  · rintro ⟨⟩
  · rintro ⟨before, rule, behind, text, split, -⟩
    simp at split

/-- Settings are read exactly when each of them is. -/
theorem read_eq_ok_iff (vars : Variables) (s : Settings) :
  read vars = .ok s ↔ s.IsReadFrom vars
  := by
  rw [read_eq]
  simp only [bind_eq_ok_iff, readNamed_eq_ok_iff isLower_conversion,
    readNamed_eq_ok_iff isLower_logLevel, readBool_eq_ok_iff]
  constructor
  · rintro ⟨conversion, readConversion, clearWraps, readClearWraps, level, readLevel, json,
      readJson, same⟩
    cases same
    exact ⟨readConversion, readClearWraps, ⟨level, rfl, readLevel⟩, readJson⟩
  · rintro ⟨readConversion, readClearWraps, ⟨level, named, readLevel⟩, readJson⟩
    obtain ⟨⟨conversion, clearWraps⟩, ⟨_, json⟩⟩ := s
    obtain rfl : _ = name level := named
    exact ⟨conversion, readConversion, clearWraps, readClearWraps, level, readLevel, json, readJson,
      rfl⟩

/-- Settings are read exactly when no rule is broken. -/
theorem exists_read_eq_ok_iff (vars : Variables) :
  (∃ s, read vars = .ok s) ↔ ∀ rule ∈ Rule.all, ¬ rule.IsBroken vars
  := by
  have fails : (∃ e, read vars = .error e) ↔ ∃ rule ∈ Rule.all, rule.IsBroken vars := by
    simp only [read_eq_error_iff, exists_isFirstFault_iff]
  have either : (∃ s, read vars = .ok s) ↔ ¬ ∃ e, read vars = .error e := by
    cases read vars <;> simp
  rw [either, fails]
  simp only [not_exists, not_and]

/-- Nothing is read from other variables than those of the rules. -/
theorem read_congr {vars others : Variables}
    (same : ∀ rule ∈ Rule.all, others rule.key = vars rule.key) :
  read others = read vars
  := by
  have conversion : others Variables.conversion = vars Variables.conversion :=
    same .conversion (by simp [Rule.all])
  have clearWraps : others Variables.clearWraps = vars Variables.clearWraps :=
    same .clearWraps (by simp [Rule.all])
  have level : others Variables.logLevel = vars Variables.logLevel :=
    same .logLevel (by simp [Rule.all])
  have json : others Variables.logJson = vars Variables.logJson :=
    same .logJson (by simp [Rule.all])
  simp only [read_eq, readNamed, readBool, conversion, clearWraps, level, json]

/-! ### Writing settings back -/

/-- The level of settings that were read is the name of one. -/
theorem exists_level_of_read {vars : Variables} {s : Settings} (accepted : read vars = .ok s) :
  ∃ level : LogLevel, s.logging.level = name level
  := by
  obtain ⟨-, -, ⟨level, named, -⟩, -⟩ := (read_eq_ok_iff vars s).mp accepted
  exact ⟨level, named⟩

/-- Settings with the name of a level are read from the variables that they are written as. -/
theorem read_toVariables {s : Settings} {level : LogLevel} (named : s.logging.level = name level) :
  read s.toVariables = .ok s
  := by
  apply (read_eq_ok_iff _ _).mpr
  constructor
  · change SpelledAlike (name s.clock.conversion) (name s.clock.conversion)
    apply spelledAlike_refl
  · rfl
  · use level, named
    change SpelledAlike s.logging.level (name level)
    rw [named]
    apply spelledAlike_refl
  · rfl

/-- Every error names the variable whose rule is broken, and shows what was found in it. -/
theorem error_names_key {rule : Rule} (mem : rule ∈ Rule.all) (text : String) :
  (rule.error text).culprit = rule.key
    ∧ (rule.error text).message = "Invalid configuration value: " ++ rule.key ++ " must be "
      ++ rule.wanted ++ ", got '" ++ rule.shown text ++ "'"
  := by
  simp only [Rule.all, List.mem_cons, List.not_mem_nil, or_false] at mem
  have regroup {key wanted demand found : String}
      (asks : demand = " must be " ++ wanted ++ ", got '") :
      "Invalid configuration value: " ++ (key ++ demand ++ found ++ "'")
        = "Invalid configuration value: " ++ key ++ " must be " ++ wanted ++ ", got '" ++ found
          ++ "'" := by
    subst asks
    simp only [String.append_assoc]
  rcases mem with rfl | rfl | rfl | rfl
  · exact ⟨rfl, regroup (by decide)⟩
  · exact ⟨rfl, regroup (by decide)⟩
  · exact ⟨rfl, regroup (by decide)⟩
  · exact ⟨rfl, regroup (by decide)⟩

/-- Which variables settings are read from.  They are read exactly when no rule is broken, each from
its variable; otherwise the error is that of the first rule that is broken, and names its variable.
No other variable matters.  The level that was read is one of the five in lower case, and what is
written back is read again. -/
theorem read_accepts_grammar (vars : Variables) :
  ((∃ s, read vars = .ok s) ↔ ∀ rule ∈ Rule.all, ¬ rule.IsBroken vars)
    ∧ (∀ s, read vars = .ok s ↔ s.IsReadFrom vars)
    ∧ (∀ e, read vars = .error e ↔ IsFirstFault vars Rule.all e)
    ∧ (∀ rule ∈ Rule.all, ∀ text, (rule.error text).culprit = rule.key
      ∧ (rule.error text).message = "Invalid configuration value: " ++ rule.key ++ " must be "
        ++ rule.wanted ++ ", got '" ++ rule.shown text ++ "'")
    ∧ (∀ others : Variables, (∀ rule ∈ Rule.all, others rule.key = vars rule.key) →
      read others = read vars)
    ∧ (∀ s, read vars = .ok s →
      s.logging.level ∈ ["trace", "debug", "info", "warn", "error"] ∧ IsLower s.logging.level
        ∧ read s.toVariables = .ok s)
  := by
  use exists_read_eq_ok_iff vars, read_eq_ok_iff vars, read_eq_error_iff vars
  use fun rule mem => error_names_key mem
  use fun others => read_congr
  intro s accepted
  obtain ⟨level, named⟩ := exists_level_of_read accepted
  refine ⟨?_, ?_, read_toVariables named⟩
  · rw [named]
    cases level <;> decide
  · rw [named]
    apply isLower_logLevel

/-- Of two variables that are not understood the one that is read first is reported. -/
example :
  read (.ofList [("LOG_JSON", "no"), ("PROVIDER_CLEAR_WRAPAROUND_ON_STOP", "TRUE")])
    = .error (.unclearClearWraps "TRUE")
  := rfl

end Settings

end MediaClock
