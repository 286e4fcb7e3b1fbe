import WindowPlacement.Proofs.Consumption
import WindowPlacement.Proofs.PresetFilling

/-!
# Reading a placement off its text

The text of a placement is one line of parameters with spaces between them.  Expressions have
spaces too, and measures the names of dimensions, but an expression ends where its tokens do.  So
the settings can be read off the line again, one after the other, and the line determines the
placement.
-/

namespace WindowPlacement

namespace Placement

/-- The dimensions that a placement sets and the expressions for them. -/
def settings (p : Placement) : List (Dimension × Expression) :=
  Dimension.all.filterMap fun dimension => (p.get dimension).map (dimension, ·)

theorem mem_settings_iff {p : Placement} {dimension : Dimension} {e : Expression} :
    (dimension, e) ∈ p.settings ↔ p.get dimension = some e := by
  simp [settings, Dimension.mem_all]

theorem settings_injective {p q : Placement} (same : p.settings = q.settings) : p = q := by
  apply Dimensions.ext_get
  intro dimension
  apply Option.ext
  intro e
  rw [← mem_settings_iff, ← mem_settings_iff, same]

/-- No expression of a placement has a number with a sign. -/
def IsUnsigned (p : Placement) : Prop :=
  ∀ dimension e, p.get dimension = some e → e.IsUnsigned

theorem isUnsigned_of_ofParameters {presets : Presets} {arguments : List String} {p : Placement}
    (accepted : ofParameters presets arguments = .ok p) : p.IsUnsigned := by
  intro dimension e set
  rcases ofParameters_cases presets arguments with ⟨q, again, -, provides⟩ | ⟨_, refused, -⟩
  · rw [accepted] at again
    injection again with same
    subst same
    have provided := provides dimension
    rw [set] at provided
    cases provided with
    | said _ read => exact Expression.isUnsigned_of_read read
    | offered _ _ read => exact Expression.isUnsigned_of_read read
  · rw [accepted] at refused
    contradiction

theorem ofString_text {e : Expression} (unsigned : e.IsUnsigned) :
    Expression.ofString e.text = .ok e := by
  rw [Expression.ofString, Expression.text, String.toList_ofList]
  exact Expression.read_render unsigned

def setting (dimension : Dimension) (e : Expression) : String :=
  dimension.name ++ "=" ++ e.text

theorem toList_setting (dimension : Dimension) (e : Expression) :
    (setting dimension e).toList = dimension.name.toList ++ '=' :: e.render := by
  simp [setting, Expression.text]

theorem equals_not_mem_name (dimension : Dimension) : '=' ∉ dimension.name.toList := by
  cases dimension <;> decide

theorem trim_name (dimension : Dimension) :
    Text.trim dimension.name.toList = dimension.name.toList := by
  cases dimension <;> rfl

/-- A name and a value behind an equals sign are a parameter for the dimension with the name. -/
theorem denotes_of_toList {argument : String} {dimension : Dimension} {value : List Char}
    (split : argument.toList = dimension.name.toList ++ '=' :: value) :
    Denotes argument ⟨dimension.name, String.ofList value⟩ := by
  refine ⟨dimension.name.toList, equals_not_mem_name dimension, ?_, ?_⟩
  · simpa using split
  · simp [trim_name]

theorem denotes_setting (dimension : Dimension) (e : Expression) :
    Denotes (setting dimension e) ⟨dimension.name, e.text⟩ :=
  denotes_of_toList (toList_setting dimension e)

section Parameters

variable {p : Placement}

theorem mem_parameters_iff {argument : String} :
    argument ∈ Dimension.all.filterMap p.parameter? ↔
      ∃ dimension e, p.get dimension = some e ∧ setting dimension e = argument := by
  simp [parameter?, Dimension.mem_all, setting]

theorem says_parameters_iff {dimension : Dimension} {text : String} :
    Says (Dimension.all.filterMap p.parameter?) dimension text ↔
      ∃ e, p.get dimension = some e ∧ e.text = text := by
  constructor
  · rintro ⟨argument, member, denoted⟩
    obtain ⟨other, e, set, rfl⟩ := mem_parameters_iff.mp member
    have same := (denotes_setting other e).unique denoted
    rw [Parameter.mk.injEq] at same
    obtain rfl := Dimension.name_injective same.1
    exact ⟨e, set, same.2⟩
  · rintro ⟨e, set, rfl⟩
    exact ⟨_, mem_parameters_iff.mpr ⟨dimension, e, set, rfl⟩, denotes_setting dimension e⟩

theorem not_selects_parameters {name : String} :
    ¬Selects (Dimension.all.filterMap p.parameter?) name := by
  rintro ⟨argument, member, value, denoted, -⟩
  obtain ⟨dimension, e, -, rfl⟩ := mem_parameters_iff.mp member
  have same := (denotes_setting dimension e).unique denoted
  rw [Parameter.mk.injEq] at same
  exact dimension.name_ne_preset same.1

theorem wellFormed_parameters (unsigned : p.IsUnsigned) :
    WellFormed (Dimension.all.filterMap p.parameter?) where
  known argument member := by
    obtain ⟨dimension, e, -, rfl⟩ := mem_parameters_iff.mp member
    exact ⟨_, denotes_setting dimension e, .inr ⟨dimension, rfl⟩⟩
  distinct := by
    have nodup : Dimension.all.Nodup := by decide
    rw [List.pairwise_filterMap]
    apply nodup.imp
    intro dimension other differs argument given argument' given' first second denoted denoted'
    obtain ⟨e, -, rfl⟩ := Option.map_eq_some_iff.mp given
    obtain ⟨e', -, rfl⟩ := Option.map_eq_some_iff.mp given'
    rw [← (denotes_setting dimension e).unique denoted,
      ← (denotes_setting other e').unique denoted']
    intro same
    exact differs (Dimension.name_injective same)
  readable dimension text said := by
    obtain ⟨e, set, rfl⟩ := says_parameters_iff.mp said
    exact ⟨e, ofString_text (unsigned dimension e set)⟩

/-- The parameters of a placement are collected as the placement again. -/
theorem holds_parameters (unsigned : p.IsUnsigned) :
    Collected.Holds ⟨p, none⟩ (Dimension.all.filterMap p.parameter?) where
  wellFormed := wellFormed_parameters unsigned
  get_iff dimension e := by
    constructor
    · intro set
      exact ⟨e.text, says_parameters_iff.mpr ⟨e, set, rfl⟩, ofString_text (unsigned _ e set)⟩
    · rintro ⟨text, said, read⟩
      obtain ⟨other, set, rfl⟩ := says_parameters_iff.mp said
      rw [ofString_text (unsigned _ other set)] at read
      injection read with same
      rw [set, same]
  preset_iff name := by
    simp [not_selects_parameters]

theorem ofParameters_parameters (unsigned : p.IsUnsigned) (some_set : p.isEmpty = false) :
    ofParameters [] (Dimension.all.filterMap p.parameter?) = .ok p := by
  have holds := holds_parameters unsigned
  obtain ⟨c, collected, again⟩ := holds.wellFormed.collect
  obtain rfl := again.unique holds
  have completed : Collected.complete [] ⟨p, none⟩ = .ok p := rfl
  rw [ofParameters_of_completed collected completed, some_set]
  rfl

end Parameters

theorem isEmpty_of_ofParameters {presets : Presets} {arguments : List String} {p : Placement}
    (accepted : ofParameters presets arguments = .ok p) : p.isEmpty = false := by
  unfold ofParameters at accepted
  split at accepted
  · contradiction
  · split at accepted
    · contradiction
    · split_ifs at accepted with empty
      injection accepted with same
      subst same
      exact Bool.eq_false_iff.mpr empty

theorem length_value_lt {argument : String} {parameter : Parameter}
    (split : Parameter.ofString? argument = some parameter) :
    parameter.value.toList.length < argument.toList.length := by
  by_cases has_equals : '=' ∈ argument.toList
  · obtain ⟨again, denoted⟩ := exists_denotes has_equals
    rw [denoted.ofString?, Option.some_inj] at split
    subst split
    obtain ⟨before, -, parts, -⟩ := denoted
    rw [parts, List.length_append, List.length_cons]
    omega
  · rw [ofString?_eq_none has_equals] at split
    contradiction

/-- Read the settings off a line: a name and an equals sign, then one expression, and so on. -/
def readSettings? (line : List Char) : Option (List (Dimension × Expression)) :=
  if line = [] then
    some []
  else
    match _split : Parameter.ofString? (String.ofList line) with
    | none => none
    | some ⟨name, value⟩ =>
      match Dimension.ofName? name, _taken : Expression.readFirst value.toList with
      | some dimension, .ok (e, rest) => (readSettings? rest).map ((dimension, e) :: ·)
      | _, _ => none
termination_by line.length
decreasing_by
  have shorter : value.toList.length < (String.ofList line).toList.length := length_value_lt _split
  have consumed := (Expression.consumesOne_of_readFirst _taken).shorter
  rw [String.toList_ofList] at shorter
  omega

theorem readSettings?_nil : readSettings? [] = some [] := by
  rw [readSettings?, if_pos rfl]

theorem readSettings?_setting {line value rest : List Char} {dimension : Dimension}
    {e : Expression} (split : line = dimension.name.toList ++ '=' :: value)
    (taken : Expression.readFirst value = .ok (e, rest)) :
    readSettings? line = (readSettings? rest).map ((dimension, e) :: ·) := by
  have nonempty : line ≠ [] := by
    simp [split]
  have denoted : Denotes (String.ofList line) ⟨dimension.name, String.ofList value⟩ := by
    apply denotes_of_toList
    rw [String.toList_ofList, split]
  have taken_value : Expression.readFirst (String.ofList value).toList = .ok (e, rest) := by
    rw [String.toList_ofList, taken]
  rw [readSettings?, if_neg nonempty]
  split
  · next none => simp [denoted.ofString?] at none
  · next name text found =>
    rw [denoted.ofString?, Option.some_inj, Parameter.mk.injEq] at found
    obtain ⟨rfl, rfl⟩ := found
    rw [dimension.ofName?_name]
    split
    · next known taken_again =>
      rw [taken_value, Except.ok.injEq, Prod.mk.injEq] at taken_again
      obtain ⟨rfl, rfl⟩ := taken_again
      rw [Option.some_inj.mp known]
    · next missing => exact (missing dimension e rest rfl taken_value).elim

/-- Some settings as parameters, each with a space in front. -/
def behind : List (Dimension × Expression) → List Char
  | [] => []
  | (dimension, e) :: rest => ' ' :: dimension.name.toList ++ '=' :: e.render ++ behind rest

theorem endsWord_head_behind (given : List (Dimension × Expression)) :
    ∀ c ∈ (behind given).head?, Expression.endsWord c = true := by
  cases given <;> simp [behind, Expression.endsWord]

theorem trimRight_behind {given : List (Dimension × Expression)}
    (unsigned : ∀ s ∈ given, s.2.IsUnsigned) : Text.trimRight (behind given) = behind given := by
  induction given with
  | nil => rfl
  | cons s rest ih =>
    rw [List.forall_mem_cons] at unsigned
    obtain ⟨nonempty, -, ends⟩ := Expression.ends_render unsigned.1
    have ends_setting : ∀ c ∈ (' ' :: s.1.name.toList ++ '=' :: s.2.render).getLast?,
        Text.isBlank c = false := by
      rw [List.getLast?_append_of_ne_nil _ (List.cons_ne_nil _ _),
        List.getLast?_cons_of_ne_nil nonempty]
      exact ends
    rw [behind, Text.trimRight_append_of_getLast ends_setting, ih unsigned.2]

theorem trim_behind_cons {dimension : Dimension} {e : Expression}
    {rest : List (Dimension × Expression)}
    (unsigned : ∀ s ∈ (dimension, e) :: rest, s.2.IsUnsigned) :
    Text.trim (behind ((dimension, e) :: rest)) =
      dimension.name.toList ++ '=' :: (e.render ++ behind rest) := by
  have starts : ∀ c ∈ (dimension.name.toList ++ '=' :: (e.render ++ behind rest)).head?,
      Text.isBlank c = false := by
    cases dimension <;> simp [Dimension.name] <;> rfl
  have one_blank : ∀ c ∈ [' '], Text.isBlank c = true := by
    simp
    rfl
  have skipped := Text.trimLeft_append one_blank starts
  -- No blank is at the end, and in front there is only the space.
  rw [← Text.trimLeft_trimRight, trimRight_behind unsigned]
  simpa [behind] using skipped

/-- The settings are read off again, each expression up to the space behind it. -/
theorem readSettings?_behind {given : List (Dimension × Expression)}
    (unsigned : ∀ s ∈ given, s.2.IsUnsigned) :
    readSettings? (Text.trim (behind given)) = some given := by
  induction given with
  | nil => exact readSettings?_nil
  | cons s rest ih =>
    obtain ⟨dimension, e⟩ := s
    have taken := Expression.readFirst_render (unsigned _ List.mem_cons_self)
      (endsWord_head_behind rest)
    rw [readSettings?_setting (trim_behind_cons unsigned) taken,
      ih fun s member => unsigned s (List.mem_cons_of_mem _ member)]
    rfl

theorem intercalate_settings (s : Dimension × Expression) (rest : List (Dimension × Expression)) :
    ' ' :: (" ".intercalate ((s :: rest).map fun s => setting s.1 s.2)).toList =
      behind (s :: rest) := by
  induction rest generalizing s with
  | nil => simp [behind, toList_setting]
  | cons next rest ih =>
    rw [behind, ← ih next, List.map_cons, List.map_cons, String.intercalate_cons_cons]
    simp [toList_setting]

theorem toList_text {p : Placement} (unsigned : p.IsUnsigned) :
    p.text.toList = Text.trim (behind p.settings) := by
  have all_unsigned : ∀ s ∈ p.settings, s.2.IsUnsigned := by
    rintro ⟨dimension, e⟩ member
    exact unsigned dimension e (mem_settings_iff.mp member)
  have parameters : Dimension.all.filterMap p.parameter? =
      p.settings.map fun s => setting s.1 s.2 := by
    rw [settings, List.map_filterMap]
    apply List.filterMap_congr
    intro dimension _
    rw [Option.map_map]
    rfl
  rw [text, parameters]
  generalize p.settings = given at all_unsigned
  cases given with
  | nil => rfl
  | cons s rest =>
    have spaced := intercalate_settings s rest
    obtain ⟨dimension, e⟩ := s
    rw [trim_behind_cons all_unsigned]
    simpa [behind] using spaced

theorem readSettings?_text {p : Placement} (unsigned : p.IsUnsigned) :
    readSettings? p.text.toList = some p.settings := by
  rw [toList_text unsigned]
  apply readSettings?_behind
  rintro ⟨dimension, e⟩ member
  exact unsigned dimension e (mem_settings_iff.mp member)

/-- A placement that has been collected is collected again from its own parameters, in any order
and without presets, and its line determines it: the settings can be read off the line. -/
theorem text_determines_placement {presets : Presets} {arguments : List String} {p : Placement}
    (accepted : ofParameters presets arguments = .ok p) :
    (∀ others, (Dimension.all.filterMap p.parameter?).Perm others →
      ofParameters [] others = .ok p) ∧
    readSettings? p.text.toList = some p.settings ∧
    ∀ presets' arguments' q, ofParameters presets' arguments' = .ok q → q.text = p.text → q = p := by
  have unsigned := isUnsigned_of_ofParameters accepted
  have again := ofParameters_parameters unsigned (isEmpty_of_ofParameters accepted)
  have read := readSettings?_text unsigned
  refine ⟨fun others same => ofParameters_perm same again, read, ?_⟩
  intro presets' arguments' q accepted' same
  have read' := readSettings?_text (isUnsigned_of_ofParameters accepted')
  rw [same, read] at read'
  exact settings_injective (Option.some.inj read').symm

/-- Arguments out of order, with a preset of which one text is not needed. -/
theorem preset_text_determines_placement :
    ∃ p, ofParameters [("p", ⟨some "(", some " (min h\t1.50 (- sh 0)) ", none, none⟩)]
        ["w=(- sw x)", " preset = p ", "x=(max w)"] = .ok p ∧
      p.text = "x=(max w) y=(min h 1.5 (- sh 0)) w=(- sw x)" ∧
      ofParameters [] (Dimension.all.filterMap p.parameter?) = .ok p ∧
      readSettings? "x=(max w) y=(min h 1.5 (- sh 0)) w=(- sw x)".toList = some p.settings := by
  have collected : (ofParameters [("p", ⟨some "(", some " (min h\t1.50 (- sh 0)) ", none, none⟩)]
      ["w=(- sw x)", " preset = p ", "x=(max w)"]).toOption.map text =
        some "x=(max w) y=(min h 1.5 (- sh 0)) w=(- sw x)" := by
    decide +kernel
  cases accepted : ofParameters [("p", ⟨some "(", some " (min h\t1.50 (- sh 0)) ", none, none⟩)]
      ["w=(- sw x)", " preset = p ", "x=(max w)"] with
  | error refusal =>
    rw [accepted] at collected
    contradiction
  | ok p =>
    rw [accepted] at collected
    have line : p.text = "x=(max w) y=(min h 1.5 (- sh 0)) w=(- sw x)" := Option.some.inj collected
    obtain ⟨again, read, -⟩ := text_determines_placement accepted
    exact ⟨p, rfl, line, again _ (List.Perm.refl _), line ▸ read⟩

end Placement

end WindowPlacement
