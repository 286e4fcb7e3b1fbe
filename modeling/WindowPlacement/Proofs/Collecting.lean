import Mathlib.Data.List.TakeDrop
import WindowPlacement.Placement.Basic

/-!
# Collecting parameters

What is collected from some arguments depends on which parameters they denote, and on nothing else.
Arguments go together if each of them denotes a parameter for a preset or for a dimension, no name
is given twice, and every expression can be read.  Otherwise the first argument that does not go
with those before it is refused.
-/

namespace WindowPlacement

/-- An argument denotes a parameter: its name stands before the first equals sign, apart from blanks
around it, and its value behind that sign. -/
def Denotes (argument : String) (p : Parameter) : Prop :=
  ∃ before, '=' ∉ before ∧ argument.toList = before ++ '=' :: p.value.toList ∧
    p.name = String.ofList (Text.trim before)

section Denotes

variable {argument : String} {p q : Parameter}

theorem span_append {before : List Char} (fresh : '=' ∉ before) (rest : List Char) :
    (before ++ rest).span (· != '=') =
      (before ++ rest.takeWhile (· != '='), rest.dropWhile (· != '=')) := by
  have passed : ∀ c ∈ before, (c != '=') = true := fun c member =>
    bne_iff_ne.mpr (ne_of_mem_of_not_mem member fresh)
  rw [List.span_eq_takeWhile_dropWhile, List.takeWhile_append_of_pos passed,
    List.dropWhile_append_of_pos passed]

theorem Denotes.ofString? (denoted : Denotes argument p) :
    Parameter.ofString? argument = some p := by
  obtain ⟨before, fresh, split, named⟩ := denoted
  rw [Parameter.ofString?, split, span_append fresh]
  simp [← named]

theorem ofString?_eq_none (unsplit : '=' ∉ argument.toList) :
    Parameter.ofString? argument = none := by
  have all := span_append unsplit []
  rw [List.append_nil] at all
  rw [Parameter.ofString?, all]
  rfl

theorem Denotes.unique (first : Denotes argument p) (second : Denotes argument q) : p = q :=
  Option.some.inj (first.ofString?.symm.trans second.ofString?)

theorem Denotes.mem (denoted : Denotes argument p) : '=' ∈ argument.toList := by
  obtain ⟨before, -, split, -⟩ := denoted
  simp [split]

theorem exists_denotes (split : '=' ∈ argument.toList) : ∃ p, Denotes argument p := by
  obtain ⟨before, value, parts, fresh⟩ := List.eq_append_cons_of_mem split
  exact ⟨⟨String.ofList (Text.trim before), String.ofList value⟩, before, fresh,
    by simpa using parts, rfl⟩

end Denotes

/-- One of the arguments gives a text for a dimension. -/
def Says (arguments : List String) (dimension : Dimension) (text : String) : Prop :=
  ∃ argument ∈ arguments, Denotes argument ⟨dimension.name, text⟩

/-- One of the arguments selects a preset; blanks around its name do not count. -/
def Selects (arguments : List String) (name : String) : Prop :=
  ∃ argument ∈ arguments, ∃ value, Denotes argument ⟨"preset", value⟩ ∧ Text.trimmed value = name

def IsKnown (name : String) : Prop :=
  name = "preset" ∨ ∃ dimension : Dimension, name = dimension.name

/-- The arguments go together, whatever their order is. -/
structure WellFormed (arguments : List String) : Prop where
  known : ∀ argument ∈ arguments, ∃ p, Denotes argument p ∧ IsKnown p.name
  distinct : arguments.Pairwise fun argument other =>
    ∀ p q, Denotes argument p → Denotes other q → p.name ≠ q.name
  readable : ∀ dimension text, Says arguments dimension text →
    ∃ e, Expression.ofString text = .ok e

/-- Why an argument does not go with those before it, which go together. -/
inductive Offends (before : List String) (argument : String) : ArgumentError → Prop
  | notAParameter : '=' ∉ argument.toList → Offends before argument (.notAParameter argument)
  | repeatedPreset {name value : String} : Denotes argument ⟨"preset", value⟩ →
      Selects before name → Offends before argument (.repeated "preset")
  | unknownName {name value : String} : Denotes argument ⟨name, value⟩ → ¬IsKnown name →
      Offends before argument (.unknownParameter "moveresize" name)
  | repeatedDimension {dimension : Dimension} {text earlier : String} :
      Denotes argument ⟨dimension.name, text⟩ → Says before dimension earlier →
      Offends before argument (.repeated dimension.name)
  | unreadable {dimension : Dimension} {text : String} {cause : ReadError} :
      Denotes argument ⟨dimension.name, text⟩ → (∀ earlier, ¬Says before dimension earlier) →
      Expression.ofString text = .error cause →
      Offends before argument (.badExpression dimension text cause)

section Arguments

variable {arguments others before back : List String} {argument : String} {p : Parameter}
  {dimension : Dimension} {text name value : String}

theorem says_concat_iff : Says (before ++ [argument]) dimension text ↔
    Says before dimension text ∨ Denotes argument ⟨dimension.name, text⟩ := by
  simp [Says, or_and_right, exists_or]

theorem selects_concat_iff : Selects (before ++ [argument]) name ↔
    Selects before name ∨ ∃ value, Denotes argument ⟨"preset", value⟩ ∧
      Text.trimmed value = name := by
  simp [Selects, or_and_right, exists_or]

theorem says_concat_iff_of_ne (denoted : Denotes argument p) (other : p.name ≠ dimension.name) :
    Says (before ++ [argument]) dimension text ↔ Says before dimension text :=
  says_concat_iff.trans (or_iff_left fun again => other (by rw [denoted.unique again]))

theorem selects_concat_iff_of_ne (denoted : Denotes argument p) (other : p.name ≠ "preset") :
    Selects (before ++ [argument]) name ↔ Selects before name :=
  selects_concat_iff.trans
    (or_iff_left fun ⟨_, again, _⟩ => other (by rw [denoted.unique again]))

theorem argument_cases (argument : String) :
    '=' ∉ argument.toList ∨ (∃ value, Denotes argument ⟨"preset", value⟩) ∨
      (∃ (dimension : Dimension) (text : String), Denotes argument ⟨dimension.name, text⟩) ∨
      ∃ name value, Denotes argument ⟨name, value⟩ ∧ ¬IsKnown name := by
  by_cases split : '=' ∈ argument.toList
  · right
    obtain ⟨⟨name, value⟩, denoted⟩ := exists_denotes split
    by_cases known : IsKnown name
    · rcases known with rfl | ⟨dimension, rfl⟩
      · exact .inl ⟨value, denoted⟩
      · exact .inr (.inl ⟨dimension, value, denoted⟩)
    · exact .inr (.inr ⟨name, value, denoted, known⟩)
  · exact .inl split

theorem WellFormed.not_offends {refusal : ArgumentError}
    (wellFormed : WellFormed (before ++ argument :: back)) :
    ¬Offends before argument refusal := by
  obtain ⟨known, distinct, readable⟩ := wellFormed
  have member : argument ∈ before ++ argument :: back := by simp
  obtain ⟨p, denoted, isKnown⟩ := known argument member
  have apart : ∀ other ∈ before, ∀ p q, Denotes other p → Denotes argument q → p.name ≠ q.name :=
    fun other earlier => (List.pairwise_append.mp distinct).2.2 other earlier argument (by simp)
  intro offends
  cases offends with
  | notAParameter unsplit => exact unsplit denoted.mem
  | repeatedPreset again selected =>
    obtain ⟨other, earlier, value, first, -⟩ := selected
    exact apart other earlier _ _ first again rfl
  | unknownName again unknown => exact unknown (by rwa [denoted.unique again] at isKnown)
  | repeatedDimension again said =>
    obtain ⟨other, earlier, first⟩ := said
    exact apart other earlier _ _ first again rfl
  | unreadable again _ failed =>
    obtain ⟨e, read⟩ := readable _ _ ⟨argument, member, again⟩
    cases read.symm.trans failed

theorem WellFormed.concat (wellFormed : WellFormed before) (denoted : Denotes argument p)
    (known : IsKnown p.name)
    (fresh : ∀ earlier ∈ before, ∀ q, Denotes earlier q → q.name ≠ p.name)
    (readable : ∀ dimension : Dimension, p.name = dimension.name →
      ∃ e, Expression.ofString p.value = .ok e) : WellFormed (before ++ [argument]) where
  known := by
    rw [List.forall_mem_append, List.forall_mem_singleton]
    exact ⟨wellFormed.known, p, denoted, known⟩
  distinct := by
    refine List.pairwise_append.mpr ⟨wellFormed.distinct, List.pairwise_singleton _ _, ?_⟩
    rintro earlier member _ (_ | ⟨_, ⟨⟩⟩) q r first second
    rw [← denoted.unique second]
    exact fresh earlier member q first
  readable dimension text said := by
    rcases says_concat_iff.mp said with earlier | now
    · exact wellFormed.readable dimension text earlier
    · obtain rfl := denoted.unique now
      exact readable dimension rfl

theorem says_congr (same : arguments.Perm others) :
    Says arguments dimension text ↔ Says others dimension text := by
  simp only [Says, same.mem_iff]

theorem selects_congr (same : arguments.Perm others) :
    Selects arguments name ↔ Selects others name := by
  simp only [Selects, same.mem_iff]

theorem WellFormed.perm (wellFormed : WellFormed arguments) (same : arguments.Perm others) :
    WellFormed others where
  known argument member := wellFormed.known argument (same.mem_iff.mpr member)
  distinct := (same.pairwise_iff fun apart p q first second =>
    (apart q p second first).symm).mp wellFormed.distinct
  readable dimension text said :=
    wellFormed.readable dimension text ((says_congr same).mpr said)

end Arguments

namespace Placement.Collected

/-- What has been collected from some arguments that go together. -/
structure Holds (c : Collected) (arguments : List String) : Prop where
  wellFormed : WellFormed arguments
  get_iff : ∀ dimension e, c.placement.get dimension = some e ↔
    ∃ text, Says arguments dimension text ∧ Expression.ofString text = .ok e
  preset_iff : ∀ name, c.preset = some name ↔ Selects arguments name

variable {c after : Collected} {arguments others before rest : List String} {argument : String}
  {dimension : Dimension} {text name value : String} {e : Expression} {refusal : ArgumentError}

theorem add_of_not_mem (unsplit : '=' ∉ argument.toList) :
    c.add argument = .error (.notAParameter argument) := by
  rw [add, ofString?_eq_none unsplit]

theorem add_of_preset (denoted : Denotes argument ⟨"preset", value⟩)
    (unselected : c.preset = none) :
    c.add argument = .ok { c with preset := some (Text.trimmed value) } := by
  simp only [add, denoted.ofString?, if_true, unselected]

theorem add_of_repeated_preset (denoted : Denotes argument ⟨"preset", value⟩)
    (selected : c.preset = some name) : c.add argument = .error (.repeated "preset") := by
  simp only [add, denoted.ofString?, if_true, selected]

theorem add_of_dimension (denoted : Denotes argument ⟨dimension.name, text⟩)
    (unset : c.placement.get dimension = none) (read : Expression.ofString text = .ok e) :
    c.add argument = .ok { c with placement := c.placement.set dimension (some e) } := by
  simp only [add, denoted.ofString?, if_neg dimension.name_ne_preset, dimension.ofName?_name, unset,
    read]

theorem add_of_repeated_dimension (denoted : Denotes argument ⟨dimension.name, text⟩)
    (set : c.placement.get dimension = some e) :
    c.add argument = .error (.repeated dimension.name) := by
  simp only [add, denoted.ofString?, if_neg dimension.name_ne_preset, dimension.ofName?_name, set]

theorem add_of_unreadable (denoted : Denotes argument ⟨dimension.name, text⟩)
    (unset : c.placement.get dimension = none) {cause : ReadError}
    (failed : Expression.ofString text = .error cause) :
    c.add argument = .error (.badExpression dimension text cause) := by
  simp only [add, denoted.ofString?, if_neg dimension.name_ne_preset, dimension.ofName?_name, unset,
    failed]

theorem add_of_unknown (denoted : Denotes argument ⟨name, value⟩) (unknown : ¬IsKnown name) :
    c.add argument = .error (.unknownParameter "moveresize" name) := by
  have not_preset : name ≠ "preset" := fun same => unknown (.inl same)
  have no_dimension : Dimension.ofName? name = none := by
    refine List.find?_eq_none.mpr fun dimension _ same => unknown (.inr ⟨dimension, ?_⟩)
    exact (beq_iff_eq.mp same).symm
  simp only [add, denoted.ofString?, if_neg not_preset, no_dimension]

theorem Holds.get_eq_none_iff (holds : c.Holds arguments) :
    c.placement.get dimension = none ↔ ∀ text, ¬Says arguments dimension text := by
  rw [Option.eq_none_iff_forall_ne_some]
  constructor
  · intro unset text said
    obtain ⟨e, read⟩ := holds.wellFormed.readable dimension text said
    exact unset e ((holds.get_iff dimension e).mpr ⟨text, said, read⟩)
  · intro unsaid e set
    obtain ⟨text, said, -⟩ := (holds.get_iff dimension e).mp set
    exact unsaid text said

theorem Holds.preset_eq_none_iff (holds : c.Holds arguments) :
    c.preset = none ↔ ∀ name, ¬Selects arguments name := by
  rw [Option.eq_none_iff_forall_ne_some]
  exact forall_congr' fun name => not_congr (holds.preset_iff name)

theorem Holds.add_eq_error_of_offends (holds : c.Holds before)
    (offends : Offends before argument refusal) : c.add argument = .error refusal := by
  cases offends with
  | notAParameter unsplit => exact add_of_not_mem unsplit
  | repeatedPreset denoted selected =>
    exact add_of_repeated_preset denoted ((holds.preset_iff _).mpr selected)
  | unknownName denoted unknown => exact add_of_unknown denoted unknown
  | repeatedDimension denoted said =>
    obtain ⟨e, read⟩ := holds.wellFormed.readable _ _ said
    exact add_of_repeated_dimension denoted ((holds.get_iff _ e).mpr ⟨_, said, read⟩)
  | unreadable denoted unsaid failed =>
    exact add_of_unreadable denoted (holds.get_eq_none_iff.mpr unsaid) failed

theorem Holds.add_preset (holds : c.Holds before) (denoted : Denotes argument ⟨"preset", value⟩)
    (unselected : ∀ name, ¬Selects before name) :
    Holds { c with preset := some (Text.trimmed value) } (before ++ [argument]) where
  wellFormed := by
    refine holds.wellFormed.concat denoted (.inl rfl) ?_ fun dimension same =>
      absurd same.symm dimension.name_ne_preset
    rintro earlier member ⟨_, value⟩ first rfl
    exact unselected _ ⟨earlier, member, value, first, rfl⟩
  get_iff dimension e := by
    simp only [says_concat_iff_of_ne denoted dimension.name_ne_preset.symm]
    exact holds.get_iff dimension e
  preset_iff name := by
    rw [selects_concat_iff, or_iff_right (unselected name), Option.some_inj]
    constructor
    · exact fun same => ⟨value, denoted, same⟩
    · rintro ⟨other, again, same⟩
      obtain ⟨⟩ := denoted.unique again
      exact same

theorem Holds.add_dimension (holds : c.Holds before)
    (denoted : Denotes argument ⟨dimension.name, text⟩)
    (unsaid : ∀ text, ¬Says before dimension text) (read : Expression.ofString text = .ok e) :
    Holds { c with placement := c.placement.set dimension (some e) } (before ++ [argument]) where
  wellFormed := by
    refine holds.wellFormed.concat denoted (.inr ⟨dimension, rfl⟩) ?_ fun _ _ => ⟨e, read⟩
    rintro earlier member ⟨_, value⟩ first rfl
    exact unsaid _ ⟨earlier, member, first⟩
  get_iff asked other := by
    rw [Dimensions.get_set]
    by_cases now : asked = dimension
    · subst now
      simp only [if_true, says_concat_iff, unsaid, false_or, Option.some_inj]
      constructor
      · rintro rfl
        exact ⟨text, denoted, read⟩
      · rintro ⟨again, denoted_again, read_again⟩
        obtain ⟨⟩ := denoted.unique denoted_again
        exact Except.ok.inj (read.symm.trans read_again)
    · have differs : dimension.name ≠ asked.name := fun same =>
        now (Dimension.name_injective same).symm
      simp only [if_neg now, says_concat_iff_of_ne denoted differs]
      exact holds.get_iff asked other
  preset_iff name :=
    (holds.preset_iff name).trans
      (selects_concat_iff_of_ne denoted dimension.name_ne_preset).symm

/-- One more argument either offends or is collected. -/
theorem Holds.add (holds : c.Holds before) (argument : String) :
    (∃ refusal, Offends before argument refusal) ∨
      ∃ after, c.add argument = .ok after ∧ after.Holds (before ++ [argument]) := by
  rcases argument_cases argument with
    unsplit | ⟨value, denoted⟩ | ⟨dimension, text, denoted⟩ | ⟨name, value, denoted, unknown⟩
  · exact .inl ⟨_, .notAParameter unsplit⟩
  · cases selected : c.preset with
    | some name => exact .inl ⟨_, .repeatedPreset denoted ((holds.preset_iff name).mp selected)⟩
    | none =>
      have unselected := holds.preset_eq_none_iff.mp selected
      exact .inr ⟨_, add_of_preset denoted selected, holds.add_preset denoted unselected⟩
  · cases set : c.placement.get dimension with
    | some e =>
      obtain ⟨earlier, said, -⟩ := (holds.get_iff dimension e).mp set
      exact .inl ⟨_, .repeatedDimension denoted said⟩
    | none =>
      have unsaid := holds.get_eq_none_iff.mp set
      cases read : Expression.ofString text with
      | error cause => exact .inl ⟨_, .unreadable denoted unsaid read⟩
      | ok e =>
        exact .inr ⟨_, add_of_dimension denoted set read, holds.add_dimension denoted unsaid read⟩
  · exact .inl ⟨_, .unknownName denoted unknown⟩

theorem Holds.add_eq_error_iff (holds : c.Holds before) :
    c.add argument = .error refusal ↔ Offends before argument refusal := by
  refine ⟨fun refused => ?_, holds.add_eq_error_of_offends⟩
  rcases holds.add argument with ⟨offence, offends⟩ | ⟨after, added, -⟩
  · obtain rfl := Except.error.inj (refused.symm.trans (holds.add_eq_error_of_offends offends))
    exact offends
  · cases refused.symm.trans added

theorem Holds.of_add (holds : c.Holds before) (added : c.add argument = .ok after) :
    after.Holds (before ++ [argument]) := by
  rcases holds.add argument with ⟨offence, offends⟩ | ⟨next, added_again, next_holds⟩
  · cases added.symm.trans (holds.add_eq_error_of_offends offends)
  · obtain rfl := Except.ok.inj (added.symm.trans added_again)
    exact next_holds

theorem holds_empty : Collected.empty.Holds [] where
  wellFormed := ⟨by simp, .nil, by simp [Says]⟩
  get_iff dimension e := by
    rw [Collected.empty, Placement.empty, Dimensions.get_replicate]
    simp [Says]
  preset_iff name := by simp [Collected.empty, Selects]

theorem addAll_append (c : Collected) (front rest : List String) :
    c.addAll (front ++ rest) = c.addAll front >>= fun middle => middle.addAll rest := by
  induction front generalizing c with
  | nil => rfl
  | cons argument front ih =>
    rw [List.cons_append, addAll, addAll]
    cases c.add argument with
    | error refusal => rfl
    | ok next => exact ih next

/-- Some more arguments are collected, or one of them offends and those in front of it do not. -/
theorem Holds.addAll (holds : c.Holds before) (rest : List String) :
    (∃ after, c.addAll rest = .ok after ∧ after.Holds (before ++ rest)) ∨
      ∃ front argument back refusal, rest = front ++ argument :: back ∧
        WellFormed (before ++ front) ∧ Offends (before ++ front) argument refusal ∧
        c.addAll rest = .error refusal := by
  induction rest generalizing c before with
  | nil => exact .inl ⟨c, rfl, by rwa [List.append_nil]⟩
  | cons argument rest ih =>
    cases added : c.add argument with
    | error refusal =>
      refine .inr ⟨[], argument, rest, refusal, rfl, ?_, ?_, by rw [Collected.addAll, added]⟩
      · rw [List.append_nil]
        exact holds.wellFormed
      · rw [List.append_nil]
        exact holds.add_eq_error_iff.mp added
    | ok next =>
      -- The argument joins those that have been collected, and the invariant goes on from there.
      have unfolded : c.addAll (argument :: rest) = next.addAll rest := by
        rw [Collected.addAll, added]
      rw [unfolded, List.append_cons]
      rcases ih (holds.of_add added) with
        collected | ⟨front, later, back, refusal, rfl, wellFormed, offends, refused⟩
      · exact .inl collected
      · refine .inr ⟨argument :: front, later, back, refusal, rfl, ?_, ?_, refused⟩
        · rwa [List.append_cons]
        · rwa [List.append_cons]

end Placement.Collected

end WindowPlacement
