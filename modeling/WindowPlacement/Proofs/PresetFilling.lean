import WindowPlacement.Proofs.Collecting

/-!
# Placements from arguments and presets

A placement has for each dimension the expression that an argument gives, or else that of the
selected preset.  A preset's text for a dimension that an argument gives too is not looked at.
If the arguments go together, it is the first text of the preset in the order of the dimensions
that is needed and cannot be read for which they are refused.
-/

namespace WindowPlacement

/-- The preset that the arguments select has a text for a dimension. -/
def Offers (presets : Presets) (arguments : List String) (dimension : Dimension) (text : String) :
    Prop :=
  ∃ name preset, Selects arguments name ∧ presets.find? name = some preset ∧
    preset.get dimension = some text

/-- A text of the selected preset can be read, unless the arguments make it superfluous. -/
def Fits (presets : Presets) (arguments : List String) (dimension : Dimension) : Prop :=
  (∀ other, ¬Says arguments dimension other) → ∀ text, Offers presets arguments dimension text →
    ∃ e, Expression.ofString text = .ok e

/-- What some arguments are to give for a dimension. -/
inductive Provides (presets : Presets) (arguments : List String) (dimension : Dimension) :
    Option Expression → Prop
  | said {text : String} {e : Expression} : Says arguments dimension text →
      Expression.ofString text = .ok e → Provides presets arguments dimension (some e)
  | offered {text : String} {e : Expression} : (∀ other, ¬Says arguments dimension other) →
      Offers presets arguments dimension text → Expression.ofString text = .ok e →
      Provides presets arguments dimension (some e)
  | unset : (∀ text, ¬Says arguments dimension text) →
      (∀ text, ¬Offers presets arguments dimension text) → Provides presets arguments dimension none

/-- The arguments describe a placement. -/
structure Acceptable (presets : Presets) (arguments : List String) : Prop where
  wellFormed : WellFormed arguments
  presetKnown : ∀ name, Selects arguments name → ∃ preset, presets.find? name = some preset
  fits : ∀ dimension, Fits presets arguments dimension
  someSet : ∃ dimension text,
    Says arguments dimension text ∨ Offers presets arguments dimension text

/-- The text of a preset for a dimension is needed but cannot be read, and it is the first one. -/
structure Breaks (presets : Presets) (arguments : List String) (name : String)
    (dimension : Dimension) (text : String) (cause : ReadError) : Prop where
  selected : Selects arguments name
  found : ∃ preset, presets.find? name = some preset ∧ preset.get dimension = some text
  unsaid : ∀ other, ¬Says arguments dimension other
  failed : Expression.ofString text = .error cause
  first : ∃ front back, Dimension.all = front ++ dimension :: back ∧
    ∀ earlier ∈ front, Fits presets arguments earlier

/-- Why some arguments describe no placement.  Nothing about the preset counts before all arguments
have been found to go together. -/
inductive Refuses (presets : Presets) (arguments : List String) : ArgumentError → Prop
  | argument {front back : List String} {argument : String} {refusal : ArgumentError} :
      arguments = front ++ argument :: back → WellFormed front → Offends front argument refusal →
      Refuses presets arguments refusal
  | unknownPreset {name : String} : WellFormed arguments → Selects arguments name →
      presets.find? name = none → Refuses presets arguments (.unknownPreset name)
  | badPreset {name : String} {dimension : Dimension} {text : String} {cause : ReadError} :
      WellFormed arguments → Breaks presets arguments name dimension text cause →
      Refuses presets arguments (.badPreset name dimension text cause)
  | nothingToDo : WellFormed arguments →
      (∀ name, Selects arguments name → ∃ preset, presets.find? name = some preset) →
      (∀ dimension text, ¬Says arguments dimension text ∧
        ¬Offers presets arguments dimension text) → Refuses presets arguments .nothingToDo

namespace Placement

section Fill

variable {p : Placement} {name : String} {preset : Preset} {dimension : Dimension}
  {text : String} {cause : ReadError}

/-- A preset's text for a dimension that the placement leaves out can be read. -/
def IsFillable (p : Placement) (preset : Preset) (dimension : Dimension) : Prop :=
  p.get dimension = none → ∀ text, preset.get dimension = some text →
    ∃ e, Expression.ofString text = .ok e

/-- What a placement has for a dimension once it has been filled. -/
def filled (p : Placement) (preset : Preset) (dimension : Dimension) : Option Expression :=
  (p.get dimension).or <| (preset.get dimension).bind fun text =>
    (Expression.ofString text).toOption

theorem not_isFillable_iff : ¬p.IsFillable preset dimension ↔
    p.get dimension = none ∧ ∃ text, preset.get dimension = some text ∧
      ∃ cause, Expression.ofString text = .error cause := by
  have failing (text : String) : (¬∃ e, Expression.ofString text = .ok e) ↔
      ∃ cause, Expression.ofString text = .error cause := by
    cases Expression.ofString text <;> simp
  simp only [IsFillable, Classical.not_imp, not_forall, failing]

theorem fillDimension_of_isFillable (name : String) (fillable : p.IsFillable preset dimension) :
    ∃ q, p.fillDimension name preset dimension = .ok q ∧
      ∀ asked, q.get asked = if asked = dimension then p.filled preset dimension
        else p.get asked := by
  cases set : p.get dimension with
  | some e =>
    refine ⟨p, by simp only [fillDimension, set], fun asked => ?_⟩
    split
    · next same => rw [same, filled, set, Option.some_or]
    · rfl
  | none =>
    cases offered : preset.get dimension with
    | none =>
      refine ⟨p, by simp only [fillDimension, set, offered], fun asked => ?_⟩
      split
      · next same => rw [same, filled, set, offered, Option.none_or, Option.bind_none]
      · rfl
    | some text =>
      obtain ⟨e, read⟩ := fillable set text offered
      refine ⟨p.set dimension (some e), by simp only [fillDimension, set, offered, read],
        fun asked => ?_⟩
      rw [Dimensions.get_set, filled, set, offered, Option.none_or, Option.bind_some, read,
        Except.toOption]

theorem filled_congr {q : Placement}
    (filledFirst : ∀ asked, q.get asked =
      if asked = dimension then p.filled preset dimension else p.get asked)
    (asked : Dimension) : q.filled preset asked = p.filled preset asked := by
  rw [filled, filledFirst]
  split
  · next same => simp only [same, filled, Option.or_assoc, Option.or_self]
  · rfl

theorem fill_of_isFillable (p : Placement) (name : String) {dimensions : List Dimension}
    (fillable : ∀ dimension ∈ dimensions, p.IsFillable preset dimension) :
    ∃ q, p.fill name preset dimensions = .ok q ∧
      ∀ asked, q.get asked = if asked ∈ dimensions then p.filled preset asked
        else p.get asked := by
  induction dimensions generalizing p with
  | nil => exact ⟨p, rfl, fun asked => by simp⟩
  | cons dimension rest ih =>
    rw [List.forall_mem_cons] at fillable
    obtain ⟨next, filled_next, gets⟩ := fillDimension_of_isFillable name fillable.1
    have still_fillable : ∀ later ∈ rest, next.IsFillable preset later := by
      intro later member unset
      refine fillable.2 later member ?_
      by_cases same : later = dimension
      · rw [gets, if_pos same, filled, Option.or_eq_none_iff] at unset
        exact same ▸ unset.1
      · rwa [gets, if_neg same] at unset
    obtain ⟨q, filled_rest, gets_rest⟩ := ih next still_fillable
    refine ⟨q, by rw [fill, filled_next]; exact filled_rest, fun asked => ?_⟩
    rw [gets_rest, filled_congr gets, gets]
    by_cases later : asked ∈ rest
    · simp [later]
    · by_cases now : asked = dimension <;> simp [later, now]

theorem fill_append (p : Placement) (name : String) (preset : Preset)
    (front rest : List Dimension) : p.fill name preset (front ++ rest) =
      p.fill name preset front >>= fun q => q.fill name preset rest := by
  induction front generalizing p with
  | nil => rfl
  | cons dimension front ih =>
    rw [List.cons_append, fill, fill]
    cases p.fillDimension name preset dimension with
    | error refusal => rfl
    | ok next => exact ih next

/-- The first text that is needed and cannot be read ends the filling. -/
theorem fill_eq_error {front back : List Dimension}
    (fillable : ∀ earlier ∈ front, p.IsFillable preset earlier) (unset : p.get dimension = none)
    (offered : preset.get dimension = some text)
    (failed : Expression.ofString text = .error cause) :
    p.fill name preset (front ++ dimension :: back) =
      .error (.badPreset name dimension text cause) := by
  obtain ⟨q, filled_front, gets⟩ := fill_of_isFillable p name fillable
  have later : dimension ∉ front := fun earlier =>
    not_isFillable_iff.mpr ⟨unset, text, offered, cause, failed⟩ (fillable dimension earlier)
  have still_unset : q.get dimension = none := by rw [gets, if_neg later, unset]
  rw [fill_append, filled_front]
  change q.fill name preset (dimension :: back) = _
  simp only [fill, fillDimension, still_unset, offered, failed]

theorem forall_isFillable_or_first (p : Placement) (preset : Preset)
    (dimensions : List Dimension) :
    (∀ dimension ∈ dimensions, p.IsFillable preset dimension) ∨
      ∃ front dimension back, dimensions = front ++ dimension :: back ∧
        (∀ earlier ∈ front, p.IsFillable preset earlier) ∧ ¬p.IsFillable preset dimension := by
  induction dimensions with
  | nil => exact .inl (by simp)
  | cons dimension rest ih =>
    by_cases fillable : p.IsFillable preset dimension
    · rcases ih with all | ⟨front, later, back, rfl, before, unfillable⟩
      · exact .inl (List.forall_mem_cons.mpr ⟨fillable, all⟩)
      · exact .inr ⟨dimension :: front, later, back, rfl,
          List.forall_mem_cons.mpr ⟨fillable, before⟩, unfillable⟩
    · exact .inr ⟨[], dimension, rest, rfl, by simp, fillable⟩

end Fill

namespace Collected

variable {c : Collected} {presets : Presets} {arguments : List String} {name : String}
  {preset : Preset} {dimension : Dimension} {text : String}

theorem offers_iff (holds : c.Holds arguments) (selected : c.preset = some name)
    (found : presets.find? name = some preset) :
    Offers presets arguments dimension text ↔ preset.get dimension = some text := by
  constructor
  · rintro ⟨other, _, again, found_again, offered⟩
    obtain rfl := Option.some.inj (selected.symm.trans ((holds.preset_iff other).mpr again))
    obtain rfl := Option.some.inj (found.symm.trans found_again)
    exact offered
  · exact fun offered => ⟨name, preset, (holds.preset_iff name).mp selected, found, offered⟩

theorem isFillable_iff (holds : c.Holds arguments) (selected : c.preset = some name)
    (found : presets.find? name = some preset) :
    c.placement.IsFillable preset dimension ↔ Fits presets arguments dimension := by
  simp only [IsFillable, Fits, holds.get_eq_none_iff, offers_iff holds selected found]

theorem provides_filled (holds : c.Holds arguments) (selected : c.preset = some name)
    (found : presets.find? name = some preset) (fits : Fits presets arguments dimension) :
    Provides presets arguments dimension (c.placement.filled preset dimension) := by
  rw [filled]
  cases set : c.placement.get dimension with
  | some e =>
    obtain ⟨text, said, read⟩ := (holds.get_iff dimension e).mp set
    exact .said said read
  | none =>
    have unsaid := holds.get_eq_none_iff.mp set
    rw [Option.none_or]
    cases offered : preset.get dimension with
    | none =>
      refine .unset unsaid fun text offers => ?_
      cases offered.symm.trans ((offers_iff holds selected found).mp offers)
    | some text =>
      have offers := (offers_iff holds selected found).mpr offered
      obtain ⟨e, read⟩ := fits unsaid text offers
      rw [Option.bind_some, read]
      exact .offered unsaid offers read

theorem not_offers_of_preset_eq_none (holds : c.Holds arguments) (unselected : c.preset = none) :
    ¬Offers presets arguments dimension text := fun ⟨name, _, selected, _⟩ =>
  holds.preset_eq_none_iff.mp unselected name selected

/-- What has been collected can be completed, or its preset is unknown or breaks. -/
theorem Holds.complete (holds : c.Holds arguments) (presets : Presets) :
    (∃ p, c.complete presets = .ok p ∧
        (∀ name, Selects arguments name → ∃ preset, presets.find? name = some preset) ∧
        (∀ dimension, Fits presets arguments dimension) ∧
        ∀ dimension, Provides presets arguments dimension (p.get dimension)) ∨
      (∃ name, c.complete presets = .error (.unknownPreset name) ∧ Selects arguments name ∧
        presets.find? name = none) ∨
      ∃ name dimension text cause,
        c.complete presets = .error (.badPreset name dimension text cause) ∧
          Breaks presets arguments name dimension text cause := by
  cases selected : c.preset with
  | none =>
    have no_offer : ∀ dimension text, ¬Offers presets arguments dimension text :=
      fun _ _ => not_offers_of_preset_eq_none holds selected
    refine .inl ⟨c.placement, by rw [Collected.complete, selected], ?_, ?_, fun dimension => ?_⟩
    · exact fun name selects => absurd selects (holds.preset_eq_none_iff.mp selected name)
    · exact fun dimension _ text offers => absurd offers (no_offer dimension text)
    · cases set : c.placement.get dimension with
      | none => exact .unset (holds.get_eq_none_iff.mp set) (no_offer dimension)
      | some e =>
        obtain ⟨text, said, read⟩ := (holds.get_iff dimension e).mp set
        exact .said said read
  | some name =>
    have selects := (holds.preset_iff name).mp selected
    cases found : presets.find? name with
    | none =>
      exact .inr (.inl ⟨name, by simp only [Collected.complete, selected, found], selects, found⟩)
    | some preset =>
      have completed : c.complete presets = c.placement.fill name preset Dimension.all := by
        simp only [Collected.complete, selected, found]
      rcases c.placement.forall_isFillable_or_first preset Dimension.all with
        fillable | ⟨front, dimension, back, split, fillable, unfillable⟩
      · have fits : ∀ dimension, Fits presets arguments dimension := fun dimension =>
          (isFillable_iff holds selected found).mp (fillable dimension dimension.mem_all)
        obtain ⟨p, filled_all, gets⟩ := c.placement.fill_of_isFillable name fillable
        refine .inl ⟨p, completed.trans filled_all, ?_, fits, fun dimension => ?_⟩
        · intro other again
          obtain rfl :=
            Option.some.inj (selected.symm.trans ((holds.preset_iff other).mpr again))
          exact ⟨preset, found⟩
        · rw [gets, if_pos dimension.mem_all]
          exact provides_filled holds selected found (fits dimension)
      · obtain ⟨unset, text, offered, cause, failed⟩ := not_isFillable_iff.mp unfillable
        refine .inr (.inr ⟨name, dimension, text, cause, ?_, selects, ⟨preset, found, offered⟩,
          holds.get_eq_none_iff.mp unset, failed, front, back, split, ?_⟩)
        · rw [completed, split, fill_eq_error fillable unset offered failed]
        · exact fun earlier member =>
            (isFillable_iff holds selected found).mp (fillable earlier member)

theorem Holds.complete_of_breaks (holds : c.Holds arguments) {cause : ReadError}
    (breaks : Breaks presets arguments name dimension text cause) :
    c.complete presets = .error (.badPreset name dimension text cause) := by
  obtain ⟨selects, ⟨preset, found, offered⟩, unsaid, failed, front, back, split, fits⟩ := breaks
  have selected := (holds.preset_iff name).mpr selects
  have fillable : ∀ earlier ∈ front, c.placement.IsFillable preset earlier :=
    fun earlier member => (isFillable_iff holds selected found).mpr (fits earlier member)
  simp only [Collected.complete, selected, found, split]
  exact fill_eq_error fillable (holds.get_eq_none_iff.mpr unsaid) offered failed

theorem Holds.perm {others : List String} (holds : c.Holds arguments)
    (same : arguments.Perm others) : c.Holds others where
  wellFormed := holds.wellFormed.perm same
  get_iff dimension e := by
    simp only [← says_congr same]
    exact holds.get_iff dimension e
  preset_iff name := (holds.preset_iff name).trans (selects_congr same)

/-- The arguments determine what is collected from them. -/
theorem Holds.unique {other : Collected} (holds : c.Holds arguments)
    (others : other.Holds arguments) : c = other := by
  have placement : c.placement = other.placement :=
    Dimensions.ext_get fun dimension => Option.ext fun e =>
      (holds.get_iff dimension e).trans (others.get_iff dimension e).symm
  have preset : c.preset = other.preset :=
    Option.ext fun name => (holds.preset_iff name).trans (others.preset_iff name).symm
  cases c
  cases other
  rw [Collected.mk.injEq]
  exact ⟨placement, preset⟩

end Collected

end Placement

section OfParameters

open Placement

variable {presets : Presets} {arguments others front back : List String} {argument : String}
  {c : Collected} {p : Placement} {dimension : Dimension} {value : Option Expression}
  {refusal : ArgumentError}

theorem WellFormed.collect (wellFormed : WellFormed arguments) :
    ∃ c, Collected.empty.addAll arguments = .ok c ∧ c.Holds arguments := by
  rcases Collected.holds_empty.addAll arguments with
    collected | ⟨front, argument, back, refusal, rfl, -, offends, -⟩
  · exact collected
  · exact absurd offends wellFormed.not_offends

theorem Provides.eq_none_iff (provides : Provides presets arguments dimension value) :
    value = none ↔ ∀ text, ¬Says arguments dimension text ∧
      ¬Offers presets arguments dimension text := by
  cases provides with
  | said said _ => simpa using ⟨_, fun unsaid => absurd said unsaid⟩
  | offered _ offers _ => simpa using ⟨_, fun _ => offers⟩
  | unset unsaid unoffered => exact iff_of_true rfl fun text => ⟨unsaid text, unoffered text⟩

theorem ofParameters_of_refused (collected : Collected.empty.addAll arguments = .ok c)
    (refused : c.complete presets = .error refusal) :
    ofParameters presets arguments = .error refusal := by
  simp only [ofParameters, collected, refused]

theorem ofParameters_of_completed (collected : Collected.empty.addAll arguments = .ok c)
    (completed : c.complete presets = .ok p) :
    ofParameters presets arguments = if p.isEmpty then .error .nothingToDo else .ok p := by
  simp only [ofParameters, collected, completed]

theorem ofParameters_of_offends (wellFormed : WellFormed front)
    (offends : Offends front argument refusal) :
    ofParameters presets (front ++ argument :: back) = .error refusal := by
  obtain ⟨c, collected, holds⟩ := wellFormed.collect
  have refused : Collected.empty.addAll (front ++ argument :: back) = .error refusal := by
    rw [Collected.addAll_append, collected]
    change c.addAll (argument :: back) = _
    rw [Collected.addAll, holds.add_eq_error_iff.mpr offends]
  rw [ofParameters, refused]

/-- The arguments describe a placement with the values that they are to give, or are refused. -/
theorem ofParameters_cases (presets : Presets) (arguments : List String) :
    (∃ p, ofParameters presets arguments = .ok p ∧ Acceptable presets arguments ∧
        ∀ dimension, Provides presets arguments dimension (p.get dimension)) ∨
      ∃ refusal, ofParameters presets arguments = .error refusal ∧
        Refuses presets arguments refusal := by
  rcases Collected.holds_empty.addAll arguments with
    ⟨c, collected, holds⟩ | ⟨front, argument, back, refusal, rfl, wellFormed, offends, -⟩
  · rcases holds.complete presets with ⟨p, completed, known, fits, provides⟩ |
      ⟨name, refused, selects, unknown⟩ | ⟨name, dimension, text, cause, refused, breaks⟩
    · have result := ofParameters_of_completed collected completed
      by_cases empty : p.isEmpty = true
      · refine .inr ⟨.nothingToDo, result.trans (if_pos empty), ?_⟩
        exact .nothingToDo holds.wellFormed known fun dimension =>
          (provides dimension).eq_none_iff.mp (isEmpty_iff.mp empty dimension)
      · refine .inl ⟨p, result.trans (if_neg empty), ⟨holds.wellFormed, known, fits, ?_⟩, provides⟩
        by_contra none_set
        refine empty (isEmpty_iff.mpr fun dimension => (provides dimension).eq_none_iff.mpr ?_)
        exact fun text => ⟨fun said => none_set ⟨dimension, text, .inl said⟩,
          fun offers => none_set ⟨dimension, text, .inr offers⟩⟩
    · exact .inr ⟨_, ofParameters_of_refused collected refused,
        .unknownPreset holds.wellFormed selects unknown⟩
    · exact .inr ⟨_, ofParameters_of_refused collected refused, .badPreset holds.wellFormed breaks⟩
  · exact .inr ⟨refusal, ofParameters_of_offends wellFormed offends,
      .argument rfl wellFormed offends⟩

theorem ofParameters_of_refuses (refuses : Refuses presets arguments refusal) :
    ofParameters presets arguments = .error refusal := by
  cases refuses with
  | argument split wellFormed offends => exact split ▸ ofParameters_of_offends wellFormed offends
  | unknownPreset wellFormed selects unknown =>
    obtain ⟨c, collected, holds⟩ := wellFormed.collect
    refine ofParameters_of_refused collected ?_
    simp only [Collected.complete, (holds.preset_iff _).mpr selects, unknown]
  | badPreset wellFormed breaks =>
    obtain ⟨c, collected, holds⟩ := wellFormed.collect
    exact ofParameters_of_refused collected (holds.complete_of_breaks breaks)
  | nothingToDo wellFormed known nothing =>
    obtain ⟨c, collected, holds⟩ := wellFormed.collect
    rcases holds.complete presets with ⟨p, completed, -, -, provides⟩ |
      ⟨name, -, selects, unknown⟩ | ⟨name, dimension, text, cause, -, breaks⟩
    · have empty : p.isEmpty = true := isEmpty_iff.mpr fun dimension =>
        (provides dimension).eq_none_iff.mpr (nothing dimension)
      exact (ofParameters_of_completed collected completed).trans (if_pos empty)
    · obtain ⟨preset, found⟩ := known name selects
      cases found.symm.trans unknown
    · obtain ⟨preset, found, offered⟩ := breaks.found
      exact absurd ⟨name, preset, breaks.selected, found, offered⟩ (nothing dimension text).2

theorem Acceptable.not_refuses (acceptable : Acceptable presets arguments) :
    ¬Refuses presets arguments refusal := by
  intro refuses
  cases refuses with
  | argument split wellFormed offends => exact (split ▸ acceptable.wellFormed).not_offends offends
  | unknownPreset _ selects unknown =>
    obtain ⟨preset, found⟩ := acceptable.presetKnown _ selects
    cases found.symm.trans unknown
  | badPreset _ breaks =>
    obtain ⟨preset, found, offered⟩ := breaks.found
    obtain ⟨e, read⟩ :=
      acceptable.fits _ breaks.unsaid _ ⟨_, preset, breaks.selected, found, offered⟩
    cases read.symm.trans breaks.failed
  | nothingToDo _ _ nothing =>
    obtain ⟨dimension, text, said | offers⟩ := acceptable.someSet
    · exact (nothing dimension text).1 said
    · exact (nothing dimension text).2 offers

theorem ofParameters_perm (same : arguments.Perm others)
    (accepted : ofParameters presets arguments = .ok p) :
    ofParameters presets others = .ok p := by
  rcases ofParameters_cases presets arguments with ⟨_, _, acceptable, _⟩ | ⟨_, refused, _⟩
  · obtain ⟨c, collected, holds⟩ := acceptable.wellFormed.collect
    obtain ⟨other, collected_others, others_hold⟩ := (acceptable.wellFormed.perm same).collect
    obtain rfl := (holds.perm same).unique others_hold
    rw [ofParameters, collected] at accepted
    rw [ofParameters, collected_others]
    exact accepted
  · cases accepted.symm.trans refused

/-- How some arguments and presets lead to a placement.  Arguments come before the preset, and so
do their refusals; the order of the arguments does not matter to a placement. -/
structure CollectsExactly (presets : Presets) (arguments : List String) : Prop where
  accepts_iff : (∃ p, ofParameters presets arguments = .ok p) ↔ Acceptable presets arguments
  provides : ∀ p, ofParameters presets arguments = .ok p →
    ∀ dimension, Provides presets arguments dimension (p.get dimension)
  permutes : ∀ others p, arguments.Perm others → ofParameters presets arguments = .ok p →
    ofParameters presets others = .ok p
  refuses_iff : ∀ refusal, ofParameters presets arguments = .error refusal ↔
    Refuses presets arguments refusal

/-- Arguments describe a placement exactly if they are acceptable, and then they give it. -/
theorem ofParameters_collects_exactly (presets : Presets) (arguments : List String) :
    CollectsExactly presets arguments where
  accepts_iff := by
    rcases ofParameters_cases presets arguments with
      ⟨p, accepted, acceptable, -⟩ | ⟨refusal, refused, refuses⟩
    · exact iff_of_true ⟨p, accepted⟩ acceptable
    · refine iff_of_false ?_ fun acceptable => acceptable.not_refuses refuses
      rintro ⟨p, accepted⟩
      cases accepted.symm.trans refused
  provides p accepted := by
    rcases ofParameters_cases presets arguments with
      ⟨q, accepted_again, -, provides⟩ | ⟨refusal, refused, -⟩
    · obtain rfl := Except.ok.inj (accepted.symm.trans accepted_again)
      exact provides
    · cases accepted.symm.trans refused
  permutes _ _ same accepted := ofParameters_perm same accepted
  refuses_iff refusal := by
    refine ⟨fun refused => ?_, ofParameters_of_refuses⟩
    rcases ofParameters_cases presets arguments with
      ⟨p, accepted, -, -⟩ | ⟨again, refused_again, refuses⟩
    · cases accepted.symm.trans refused
    · obtain rfl := Except.error.inj (refused.symm.trans refused_again)
      exact refuses

-- The preset's text for `x` cannot be read, but it is not looked at.
example :
    (ofParameters [("p", ⟨some "(", some "h", none, none⟩)] ["preset= p ", "x=w"]).toOption.map
      Placement.text = some "x=w y=h" := by decide +kernel

end OfParameters

end WindowPlacement
