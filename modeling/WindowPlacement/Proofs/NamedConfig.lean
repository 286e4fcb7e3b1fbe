import WindowPlacement.CommandLine.Reading

/-!
# The configuration that a command line names

The option `--config` can be read on both sides of the subcommand, and a value is only accepted
when the next word is read.  All this comes to a simple rule: what counts is the path that is
named last, and nothing counts from the first `--` on.
-/

namespace WindowPlacement.CommandLine

/-- The path that is named last before the first `--`. -/
def configPath? : List String → Option String
  | [] => none
  | word :: rest =>
    if word = "--" then
      none
    else if word = "--config" then
      match rest with
      | [] => none
      | path :: rest => (configPath? rest).or (some path)
    else
      (configPath? rest).or (behind? "--config=" word)

section Words

theorem configPath?_separator (rest : List String) : configPath? ("--" :: rest) = none := by
  rw [configPath?.eq_def]
  simp only [if_true]

theorem configPath?_option (path : String) (rest : List String) :
    configPath? ("--config" :: path :: rest) = some ((configPath? rest).getD path) := by
  rw [configPath?.eq_def]
  simp only [if_neg (show "--config" ≠ "--" by decide), if_true, Option.or_some]

theorem configPath?_of_ne {word : String} (no_separator : word ≠ "--")
    (no_option : word ≠ "--config") (rest : List String) :
    configPath? (word :: rest) = (configPath? rest).or (behind? "--config=" word) := by
  rw [configPath?.eq_def]
  simp only [if_neg no_separator, if_neg no_option]

variable {word : String}

theorem Word.ofString_of_behind {value : String} (no_separator : word ≠ "--")
    (no_option : word ≠ "--config") (behind : behind? "--config=" word = some value) :
    Word.ofString word = .configWithValue value := by
  have no_help : word ≠ "--help" := by
    rintro rfl
    cases behind
  have no_version : word ≠ "--version" := by
    rintro rfl
    cases behind
  simp only [Word.ofString, if_neg no_separator, if_neg no_option, if_neg no_help,
    if_neg no_version, behind]

theorem eq_separator (looks : Word.ofString word = .separator) : word = "--" := by
  unfold Word.ofString at looks
  repeat' split at looks
  all_goals first | assumption | cases looks

theorem eq_configOption (looks : Word.ofString word = .configOption) : word = "--config" := by
  unfold Word.ofString at looks
  repeat' split at looks
  all_goals first | assumption | cases looks

theorem configPath?_cons_value {value : String}
    (looks : Word.ofString word = .configWithValue value) (rest : List String) :
    configPath? (word :: rest) = some ((configPath? rest).getD value) := by
  have no_separator : word ≠ "--" := by
    rintro rfl
    cases looks
  have no_option : word ≠ "--config" := by
    rintro rfl
    cases looks
  rw [configPath?_of_ne no_separator no_option]
  cases behind : behind? "--config=" word with
  | some other =>
    rw [Word.ofString_of_behind no_separator no_option behind] at looks
    rw [Word.configWithValue.inj looks, Option.or_some]
  | none =>
    unfold Word.ofString at looks
    simp only [if_neg no_separator, if_neg no_option, behind] at looks
    repeat' split at looks
    all_goals cases looks

theorem configPath?_cons_plain (looks : Word.ofString word = .plain) (rest : List String) :
    configPath? (word :: rest) = configPath? rest := by
  have no_separator : word ≠ "--" := by
    rintro rfl
    cases looks
  have no_option : word ≠ "--config" := by
    rintro rfl
    cases looks
  rw [configPath?_of_ne no_separator no_option]
  cases behind : behind? "--config=" word with
  | some value =>
    rw [Word.ofString_of_behind no_separator no_option behind] at looks
    cases looks
  | none => exact Option.or_none

end Words

namespace ConfigOption

variable {o o' : ConfigOption}

def value? (o : ConfigOption) : Option String :=
  o.pending.getD o.accepted

theorem settle_of_awaitsValue (awaits : o.awaitsValue = true) : o.settle = .error .misuse := by
  obtain ⟨accepted, pending⟩ := o
  simp only [awaitsValue, beq_iff_eq] at awaits
  rw [awaits]
  rfl

theorem accepted_of_accept {value : String} (accepted : o.accept value = .ok o') :
    o' = ⟨some value, none⟩ := by
  unfold accept at accepted
  split at accepted
  · cases accepted
  · exact (Except.ok.inj accepted).symm

/-- Settling keeps the value, and nothing is pending then. -/
theorem eq_of_settle (settled : o.settle = .ok o') : o' = ⟨o.value?, none⟩ := by
  obtain ⟨accepted, pending⟩ := o
  rcases pending with _ | _ | value
  · exact (Except.ok.inj settled).symm
  · cases settled
  · exact accepted_of_accept settled

theorem awaitsValue_of_settle (settled : o.settle = .ok o') : o.awaitsValue = false := by
  cases awaits : o.awaitsValue with
  | false => rfl
  | true => simp [settle_of_awaitsValue awaits] at settled

theorem awaitsValue_of_start (started : o.start = .ok o') :
    o.awaitsValue = false ∧ o'.awaitsValue = true := by
  unfold start at started
  cases settled : o.settle with
  | error stop => simp [settled, Except.map] at started
  | ok between =>
    rw [settled] at started
    rw [← Except.ok.inj started]
    exact ⟨awaitsValue_of_settle settled, rfl⟩

theorem eq_of_attach {value : String} (attached : o.attach value = .ok o') :
    o.awaitsValue = false ∧ o' = ⟨some value, none⟩ := by
  unfold attach at attached
  cases settled : o.settle with
  | error stop => simp [settled, Except.bind] at attached
  | ok between =>
    rw [settled] at attached
    exact ⟨awaitsValue_of_settle settled, accepted_of_accept attached⟩

end ConfigOption

section Reading

variable {subcommand : Subcommand} {option option' final : ConfigOption}
  {arguments arguments' : List String} {word : String}

/-- The path that is named by what is known about the option and the words that are left. -/
def named? (option : ConfigOption) (words : List String) : Option String :=
  if option.awaitsValue then configPath? ("--config" :: words)
  else (configPath? words).or option.value?

/-- What has been read and what is left name a path, and they do if a value is awaited. -/
structure Names (option : ConfigOption) (words : List String) (path : Option String) : Prop where
  eq : path = named? option words
  awaited : option.awaitsValue = true → (named? option words).isSome = true

theorem Names.of_settled {path : Option String} {words : List String}
    (settled : option.awaitsValue = false) (eq : path = (configPath? words).or option.value?) :
    Names option words path :=
  ⟨by rw [eq, named?, settled, if_neg Bool.false_ne_true],
    fun awaits => absurd (settled.symm.trans awaits) Bool.false_ne_true⟩

theorem Names.eq_of_settled {path : Option String} {words : List String}
    (names : Names option words path) (settled : option.awaitsValue = false) :
    path = (configPath? words).or option.value? := by
  rw [names.eq, named?, settled, if_neg Bool.false_ne_true]

theorem Names.value {path : Option String} {words : List String}
    (awaits : option.awaitsValue = true)
    (names : Names { option with pending := some (some word) } words path) :
    Names option (word :: words) path := by
  have both : path = named? option (word :: words) := by
    rw [names.eq_of_settled rfl, named?, if_pos awaits, configPath?_option]
    exact Option.or_some
  refine ⟨both, fun _ => ?_⟩
  rw [named?, if_pos awaits, configPath?_option]
  rfl

theorem Names.plain {path : Option String} {words : List String}
    (looks : Word.ofString word = .plain) (settled : option.awaitsValue = false)
    (names : Names ⟨option.value?, none⟩ words path) : Names option (word :: words) path := by
  refine .of_settled settled ?_
  rw [configPath?_cons_plain looks]
  exact names.eq_of_settled rfl

theorem Names.start {path : Option String} {words : List String}
    (looks : Word.ofString word = .configOption) (started : option.start = .ok option')
    (names : Names option' words path) : Names option (word :: words) path := by
  obtain ⟨settled, awaits⟩ := ConfigOption.awaitsValue_of_start started
  refine .of_settled settled ?_
  -- A value is still to come, and it is named later than anything that has been read.
  obtain ⟨value, known⟩ := Option.isSome_iff_exists.mp (names.awaited awaits)
  rw [names.eq, eq_configOption looks]
  rw [named?, if_pos awaits] at known ⊢
  rw [known]
  rfl

theorem Names.attach {path : Option String} {words : List String} {value : String}
    (looks : Word.ofString word = .configWithValue value)
    (attached : option.attach value = .ok option') (names : Names option' words path) :
    Names option (word :: words) path := by
  obtain ⟨settled, rfl⟩ := ConfigOption.eq_of_attach attached
  refine .of_settled settled ?_
  rw [configPath?_cons_value looks, names.eq_of_settled rfl]
  exact Option.or_some

theorem eq_of_addArgument
    (added : addArgument subcommand option arguments word = .ok (option', arguments')) :
    option.awaitsValue = false ∧ option' = ⟨option.value?, none⟩ := by
  unfold addArgument at added
  cases settled : option.settle with
  | error stop => simp [settled] at added
  | ok between =>
    simp only [settled] at added
    split at added
    · rw [← (Prod.mk.inj (Except.ok.inj added)).1]
      exact ⟨ConfigOption.awaitsValue_of_settle settled, ConfigOption.eq_of_settle settled⟩
    · cases added

theorem accepted_of_addArguments {words : List String}
    (added : addArguments subcommand option arguments words = .ok (option', arguments'))
    (settled : option'.settle = .ok final) :
    option.awaitsValue = false ∧ final.accepted = option.value? := by
  induction words generalizing option arguments with
  | nil =>
    rw [← (Prod.mk.inj (Except.ok.inj added)).1] at settled
    exact ⟨ConfigOption.awaitsValue_of_settle settled, by rw [ConfigOption.eq_of_settle settled]⟩
  | cons word words ih =>
    rw [addArguments] at added
    cases first : addArgument subcommand option arguments word with
    | error stop => simp [first] at added
    | ok between =>
      simp only [first] at added
      obtain ⟨ready, between_eq⟩ := eq_of_addArgument first
      refine ⟨ready, ?_⟩
      rw [(ih added).2, between_eq]
      rfl

theorem names_of_readArguments {words : List String}
    (read : readArguments subcommand option arguments words = .ok (option', arguments'))
    (settled : option'.settle = .ok final) : Names option words final.accepted := by
  -- The cases follow what the next word looks like; words that end the reading are no cases.
  induction words generalizing option arguments with
  | nil =>
    rw [← (Prod.mk.inj (Except.ok.inj read)).1] at settled
    refine .of_settled (ConfigOption.awaitsValue_of_settle settled) ?_
    rw [ConfigOption.eq_of_settle settled]
    rfl
  | cons word words ih =>
    rw [readArguments] at read
    cases looks : Word.ofString word with
    | plain =>
      simp only [looks] at read
      split at read
      · rename_i awaits
        exact .value awaits (ih read)
      · cases added : addArgument subcommand option arguments word with
        | error stop => simp [added] at read
        | ok between =>
          simp only [added] at read
          obtain ⟨ready, between_eq⟩ := eq_of_addArgument added
          exact .plain looks ready (between_eq ▸ ih read)
    | separator =>
      simp only [looks] at read
      obtain ⟨ready, accepted⟩ := accepted_of_addArguments read settled
      refine .of_settled ready ?_
      rw [accepted, eq_separator looks, configPath?_separator]
      rfl
    | configOption =>
      simp only [looks] at read
      cases started : option.start with
      | error stop => simp [started] at read
      | ok between =>
        simp only [started] at read
        exact .start looks started (ih read)
    | configWithValue value =>
      simp only [looks] at read
      cases attached : option.attach value with
      | error stop => simp [attached] at read
      | ok between =>
        simp only [attached] at read
        exact .attach looks attached (ih read)
    | help =>
      simp only [looks] at read
      split at read <;> cases read
    | version => simp [looks] at read
    | unknownOption => simp [looks] at read

theorem config_of_readSubcommand {words : List String} {config : Option String}
    {invocation : Invocation}
    (read : readSubcommand subcommand words = .ok (config, invocation)) :
    config = configPath? words := by
  unfold readSubcommand at read
  cases found : readArguments subcommand .absent [] words with
  | error stop => simp [found] at read
  | ok between =>
    simp only [found] at read
    split at read
    · rename_i final meant settled known
      rw [← (Prod.mk.inj (Except.ok.inj read)).1,
        (names_of_readArguments found settled).eq_of_settled rfl]
      exact Option.or_none
    · cases read

theorem names_of_readWords {words : List String} {request : Request}
    (read : readWords option words = .ok request) : Names option words request.config := by
  induction words generalizing option with
  | nil => cases read
  | cons word words ih =>
    rw [readWords] at read
    cases looks : Word.ofString word with
    | plain =>
      simp only [looks] at read
      split at read
      · rename_i awaits
        exact .value awaits (ih read)
      split at read
      · cases read
      split at read
      · cases read
      split at read
      · cases read
      rename_i inner invocation inside
      split at read
      · cases read
      rename_i outer settled
      refine .of_settled (ConfigOption.awaitsValue_of_settle settled) ?_
      rw [← Except.ok.inj read, configPath?_cons_plain looks, config_of_readSubcommand inside,
        ConfigOption.eq_of_settle settled]
    | separator => simp [looks] at read
    | configOption =>
      simp only [looks] at read
      cases started : option.start with
      | error stop => simp [started] at read
      | ok between =>
        simp only [started] at read
        exact .start looks started (ih read)
    | configWithValue value =>
      simp only [looks] at read
      cases attached : option.attach value with
      | error stop => simp [attached] at read
      | ok between =>
        simp only [attached] at read
        exact .attach looks attached (ih read)
    | help =>
      simp only [looks] at read
      split at read <;> cases read
    | version =>
      simp only [looks] at read
      split at read <;> cases read
    | unknownOption => simp [looks] at read

/-- The configuration of a command line is the path that is named last. -/
theorem config_of_read {words : List String} {request : Request}
    (understood : read words = .ok request) : request.config = configPath? words := by
  rw [(names_of_readWords understood).eq_of_settled rfl]
  exact Option.or_none

end Reading

end WindowPlacement.CommandLine
