import WindowPlacement.Proofs.PresetFilling
import WindowPlacement.Proofs.TakenTokens

/-!
# Choosing a preset by its name

A preset can be chosen by its name, whatever characters the name has, as long as there are no blanks
at its ends: the name is what stands behind the first equals sign of the parameter, without blanks
around it, so it may have further equals signs and blanks inside.  A preset whose name has blanks at
its ends is out of reach.
-/

namespace WindowPlacement

namespace Text

structure IsBare (s : String) : Prop where
  starts : ∀ c ∈ s.toList.head?, isBlank c = false
  ends : ∀ c ∈ s.toList.getLast?, isBlank c = false

instance (s : String) : Decidable (IsBare s) :=
  decidable_of_iff (s.toList.head?.all (!isBlank ·) = true ∧
      s.toList.getLast?.all (!isBlank ·) = true) <| by
    simp only [Option.all_eq_true, Bool.not_eq_true']
    exact ⟨fun ⟨starts, ends⟩ => ⟨starts, ends⟩, fun ⟨starts, ends⟩ => ⟨starts, ends⟩⟩

theorem IsBare.trimmed_eq {s : String} (bare : IsBare s) : trimmed s = s := by
  have same : trim s.toList = s.toList := by
    apply trim_eq_self bare.starts
    intro nonempty
    exact bare.ends _ (List.getLast_mem_getLast? nonempty)
  rw [trimmed, same, String.ofList_toList]

theorem isBare_trimmed (s : String) : IsBare (trimmed s) where
  starts := by
    rw [trimmed, String.toList_ofList]
    exact isBlank_head_trim s.toList
  ends := by
    rw [trimmed, String.toList_ofList]
    exact isBlank_getLast_trim s.toList

end Text

/-- A preset has a text for some dimension, and all of its texts can be read. -/
structure Preset.IsUsable (preset : Preset) : Prop where
  someText : ∃ dimension text, preset.get dimension = some text
  readable : ∀ dimension text, preset.get dimension = some text →
    ∃ e, Expression.ofString text = .ok e

theorem exists_read_iff {text : String} :
    (∃ e, Expression.ofString text = .ok e) ↔ (Expression.ofString text).isOk = true := by
  cases Expression.ofString text <;> simp [Except.isOk, Except.toBool]

instance (preset : Preset) : Decidable preset.IsUsable :=
  decidable_of_iff ((∃ dimension ∈ Dimension.all, (preset.get dimension).isSome = true) ∧
      ∀ dimension ∈ Dimension.all, ∀ text ∈ preset.get dimension,
        (Expression.ofString text).isOk = true) <| by
    simp only [Dimension.mem_all, true_and, forall_const, ← exists_read_iff,
      Option.isSome_iff_exists]
    exact ⟨fun ⟨someText, readable⟩ => ⟨someText, readable⟩,
      fun ⟨someText, readable⟩ => ⟨someText, readable⟩⟩

/-- The texts of a preset spell the expressions of a placement, and no others. -/
def Preset.Spells (preset : Preset) (p : Placement) : Prop :=
  ∀ dimension e, p.get dimension = some e ↔
    ∃ text, preset.get dimension = some text ∧ Expression.ofString text = .ok e

def presetParameter (name : String) : String :=
  "preset=" ++ name

theorem denotes_presetParameter (name : String) :
    Denotes (presetParameter name) ⟨"preset", name⟩ := by
  refine ⟨"preset".toList, by decide, ?_, rfl⟩
  rw [presetParameter, String.toList_append]
  rfl

section Selection

variable {presets others : Presets} {arguments : List String} {name : String} {preset : Preset}
  {dimension : Dimension} {text : String} {p : Placement}

theorem Selects.isBare (selected : Selects arguments name) : Text.IsBare name := by
  obtain ⟨argument, -, value, -, rfl⟩ := selected
  exact Text.isBare_trimmed value

theorem selects_presetParameter_iff {other : String} :
    Selects [presetParameter name] other ↔ Text.trimmed name = other := by
  unfold Selects
  simp only [List.mem_singleton, exists_eq_left]
  constructor
  · rintro ⟨value, denoted, trimmed⟩
    obtain ⟨⟩ := (denotes_presetParameter name).unique denoted
    exact trimmed
  · intro trimmed
    exact ⟨name, denotes_presetParameter name, trimmed⟩

theorem not_says_presetParameter : ¬Says [presetParameter name] dimension text := by
  rintro ⟨argument, member, denoted⟩
  rw [List.mem_singleton.mp member] at denoted
  have same := congrArg Parameter.name ((denotes_presetParameter name).unique denoted)
  exact dimension.name_ne_preset same.symm

theorem wellFormed_presetParameter (name : String) : WellFormed [presetParameter name] where
  known := by
    rw [List.forall_mem_singleton]
    exact ⟨_, denotes_presetParameter name, .inl rfl⟩
  distinct := List.pairwise_singleton _ _
  readable _ _ said := absurd said not_says_presetParameter

/-- Of the presets, only the one that the arguments select plays a part. -/
theorem ofParameters_congr
    (same : ∀ name, Selects arguments name → others.find? name = presets.find? name) :
    Placement.ofParameters others arguments = Placement.ofParameters presets arguments := by
  unfold Placement.ofParameters
  rcases Placement.Collected.holds_empty.addAll arguments with
    ⟨c, collected, holds⟩ | ⟨_, _, _, refusal, -, -, -, refused⟩
  · -- The arguments are collected without a look at the presets; only completing asks for one.
    have completed : c.complete others = c.complete presets := by
      unfold Placement.Collected.complete
      cases selected : c.preset with
      | none => rfl
      | some name => simp only [same name ((holds.preset_iff name).mp selected)]
    simp only [collected, completed]
  · simp only [refused]

theorem offers_presetParameter_iff (bare : Text.IsBare name)
    (stored : presets.find? name = some preset) :
    Offers presets [presetParameter name] dimension text ↔ preset.get dimension = some text := by
  unfold Offers
  constructor
  · rintro ⟨other, found, selected, stored', offered⟩
    rw [selects_presetParameter_iff, bare.trimmed_eq] at selected
    subst selected
    obtain rfl := Option.some.inj (stored.symm.trans stored')
    exact offered
  · intro offered
    exact ⟨name, preset, selects_presetParameter_iff.mpr bare.trimmed_eq, stored, offered⟩

theorem Preset.IsUsable.acceptable (usable : preset.IsUsable) (bare : Text.IsBare name)
    (stored : presets.find? name = some preset) :
    Acceptable presets [presetParameter name] where
  wellFormed := wellFormed_presetParameter name
  presetKnown other selected := by
    rw [selects_presetParameter_iff, bare.trimmed_eq] at selected
    exact ⟨preset, selected ▸ stored⟩
  fits dimension _ text offers :=
    usable.readable dimension text ((offers_presetParameter_iff bare stored).mp offers)
  someSet := by
    obtain ⟨dimension, text, offered⟩ := usable.someText
    exact ⟨dimension, text, .inr ((offers_presetParameter_iff bare stored).mpr offered)⟩

theorem spells_of_provides (bare : Text.IsBare name) (stored : presets.find? name = some preset)
    (provides : ∀ dimension, Provides presets [presetParameter name] dimension (p.get dimension)) :
    preset.Spells p := by
  intro dimension e
  have provided := provides dimension
  generalize p.get dimension = given at provided
  cases provided with
  | said said _ => exact absurd said not_says_presetParameter
  | offered _ offers read =>
    have offered := (offers_presetParameter_iff bare stored).mp offers
    constructor
    · rintro ⟨⟩
      exact ⟨_, offered, read⟩
    · rintro ⟨text, offered', read'⟩
      obtain rfl := Option.some.inj (offered.symm.trans offered')
      rw [Except.ok.inj (read.symm.trans read')]
  | unset _ unoffered =>
    constructor
    · intro set
      contradiction
    · rintro ⟨text, offered, -⟩
      exact absurd ((offers_presetParameter_iff bare stored).mpr offered) (unoffered text)

theorem Preset.IsUsable.chosen (usable : preset.IsUsable) (bare : Text.IsBare name)
    (stored : presets.find? name = some preset) :
    ∃ p, Placement.ofParameters presets [presetParameter name] = .ok p ∧ preset.Spells p := by
  rcases ofParameters_cases presets [presetParameter name] with
    ⟨p, accepted, -, provides⟩ | ⟨refusal, -, refuses⟩
  · exact ⟨p, accepted, spells_of_provides bare stored provides⟩
  · exact absurd refuses (usable.acceptable bare stored).not_refuses

end Selection

/-- What asking for presets by their names comes to.  Presets under other names play no part, and
those under names with blanks at their ends none at all. -/
structure ChosenByName (presets : Presets) : Prop where
  chosen : ∀ name preset, Text.IsBare name → presets.find? name = some preset → preset.IsUsable →
    ∃ p, Placement.ofParameters presets [presetParameter name] = .ok p ∧ preset.Spells p
  own : ∀ name (others : Presets), Text.IsBare name → others.find? name = presets.find? name →
    Placement.ofParameters others [presetParameter name] =
      Placement.ofParameters presets [presetParameter name]
  unreached : ∀ (others : Presets) arguments,
    (∀ name, Text.IsBare name → others.find? name = presets.find? name) →
    Placement.ofParameters others arguments = Placement.ofParameters presets arguments

/-- Presets are chosen by their names, unless there are blanks at the ends of these. -/
theorem presets_chosen_by_name (presets : Presets) : ChosenByName presets where
  chosen _ _ bare stored usable := usable.chosen bare stored
  own name others bare same := by
    apply ofParameters_congr
    intro other selected
    rw [selects_presetParameter_iff, bare.trimmed_eq] at selected
    exact selected ▸ same
  unreached others arguments same := by
    apply ofParameters_congr
    intro name selected
    exact same name selected.isBare

/-- A name with blanks and an equals sign inside, and one without any characters. -/
theorem oddly_named_presets_chosen :
    let left : Preset := ⟨some "(- x x)", none, some "(min w sw)", none⟩
    let top : Preset := ⟨none, some "(- y y)", none, none⟩
    let presets : Presets := [("left = half", left), ("", top)]
    (∃ p, Placement.ofParameters presets [presetParameter "left = half"] = .ok p ∧
        left.Spells p) ∧
      ∃ p, Placement.ofParameters presets [presetParameter ""] = .ok p ∧ top.Spells p := by
  intro left top presets
  have chosen := (presets_chosen_by_name presets).chosen
  constructor
  · exact chosen "left = half" left (by decide) rfl (by decide +kernel)
  · exact chosen "" top (by decide) rfl (by decide +kernel)

/-- A usable preset that is not found, because the blank in its name is not looked for. -/
theorem padded_preset_is_unknown :
    let wide : Preset := ⟨none, none, some "sw", none⟩
    let presets : Presets := [(" wide", wide)]
    presets.find? " wide" = some wide ∧ wide.IsUsable ∧
      Placement.ofParameters presets [presetParameter " wide"] =
        .error (.unknownPreset "wide") :=
  ⟨rfl, by decide +kernel, rfl⟩

end WindowPlacement
