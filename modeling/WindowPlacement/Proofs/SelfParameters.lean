import WindowPlacement.CommandLine.Reading
import WindowPlacement.Proofs.Mentions
import WindowPlacement.Proofs.RoundTrip

/-!
# Parameters that keep a dimension

A parameter such as `x=x` sets a dimension to its own measure.  Every selection of these
parameters, in any order but each at most once, is a placement.
-/

namespace WindowPlacement

namespace Dimension

def selfParameter (dimension : Dimension) : String :=
  dimension.name ++ "=" ++ dimension.name

theorem ofString?_selfParameter (dimension : Dimension) :
    Parameter.ofString? dimension.selfParameter = some ⟨dimension.name, dimension.name⟩ := by
  cases dimension <;> rfl

theorem word_selfParameter (dimension : Dimension) :
    CommandLine.Word.ofString dimension.selfParameter = .plain := by
  cases dimension <;> rfl

theorem ofString_name (dimension : Dimension) :
    Expression.ofString dimension.name = .ok (.measure dimension.measure) := by
  have unsigned : (Expression.measure dimension.measure).IsUnsigned := by
    simp [Expression.IsUnsigned, Expression.constants]
  have spelled : dimension.name.toList = (Expression.measure dimension.measure).render := by
    cases dimension <;> rfl
  rw [Expression.ofString, spelled]
  exact Expression.read_render unsigned

end Dimension

namespace Placement

def keeping (p : Placement) (dimensions : List Dimension) : Placement :=
  dimensions.foldl (fun p dimension => p.set dimension (some (.measure dimension.measure))) p

theorem get_keeping (p : Placement) (dimensions : List Dimension) (asked : Dimension) :
    (p.keeping dimensions).get asked =
      if asked ∈ dimensions then some (.measure asked.measure) else p.get asked := by
  induction dimensions generalizing p with
  | nil => simp [keeping]
  | cons dimension rest ih =>
    have first : p.keeping (dimension :: rest) =
        keeping (p.set dimension (some (.measure dimension.measure))) rest := rfl
    rw [first, ih, Dimensions.get_set]
    by_cases later : asked ∈ rest
    · simp [later]
    · by_cases now : asked = dimension <;> simp [later, now]

theorem Collected.add_selfParameter {c : Collected} {dimension : Dimension}
    (free : c.placement.get dimension = none) :
    c.add dimension.selfParameter = .ok { c with
      placement := c.placement.set dimension (some (.measure dimension.measure)) } := by
  simp only [add, dimension.ofString?_selfParameter, if_neg dimension.name_ne_preset,
    dimension.ofName?_name, free, dimension.ofString_name]

theorem Collected.addAll_selfParameters {dimensions : List Dimension} (c : Collected)
    (distinct : dimensions.Nodup)
    (free : ∀ dimension ∈ dimensions, c.placement.get dimension = none) :
    c.addAll (dimensions.map Dimension.selfParameter) =
      .ok { c with placement := c.placement.keeping dimensions } := by
  induction dimensions generalizing c with
  | nil => rfl
  | cons dimension rest ih =>
    obtain ⟨fresh, distinct⟩ := List.nodup_cons.mp distinct
    rw [List.forall_mem_cons] at free
    have added := add_selfParameter free.1
    have still_free : ∀ other ∈ rest, (c.placement.set dimension
        (some (.measure dimension.measure))).get other = none := by
      intro other member
      have differs : other ≠ dimension := ne_of_mem_of_not_mem member fresh
      rw [Dimensions.get_set, if_neg differs]
      exact free.2 other member
    rw [List.map_cons, addAll, added]
    exact ih _ distinct still_free

theorem isEmpty_eq_false {p : Placement} {dimension : Dimension} {e : Expression}
    (chosen : p.get dimension = some e) : p.isEmpty = false := by
  rw [← Bool.not_eq_true, isEmpty_iff]
  intro unset
  rw [unset dimension] at chosen
  cases chosen

/-- Any selection of the parameters is a placement, whatever the presets are. -/
theorem ofParameters_selfParameters (presets : Presets) {dimensions : List Dimension}
    (selected : dimensions ≠ []) (distinct : dimensions.Nodup) :
    ofParameters presets (dimensions.map Dimension.selfParameter) =
      .ok (Placement.empty.keeping dimensions) := by
  have collected := Collected.empty.addAll_selfParameters distinct fun dimension _ =>
    Dimensions.get_replicate none dimension
  obtain ⟨first, member⟩ := List.exists_mem_of_ne_nil dimensions selected
  have chosen : (Placement.empty.keeping dimensions).get first =
      some (.measure first.measure) := by
    rw [get_keeping, if_pos member]
  have settled := isEmpty_eq_false chosen
  rw [ofParameters, collected]
  simp only [Collected.complete, Collected.empty, settled, Bool.false_eq_true, if_false]

end Placement

namespace CommandLine

theorem readArguments_selfParameters (dimensions : List Dimension) (given : List String) :
    readArguments .moveResize .absent given (dimensions.map Dimension.selfParameter) =
      .ok (.absent, given ++ dimensions.map Dimension.selfParameter) := by
  induction dimensions generalizing given with
  | nil => simp [readArguments]
  | cons dimension rest ih =>
    have taken : addArgument .moveResize .absent given dimension.selfParameter =
        .ok (.absent, given ++ [dimension.selfParameter]) := rfl
    have waits : ConfigOption.absent.awaitsValue = false := rfl
    simp only [List.map_cons, readArguments, dimension.word_selfParameter, waits, taken,
      Bool.false_eq_true, if_false, ih, List.append_assoc, List.singleton_append]

theorem read_selfParameters (dimensions : List Dimension) :
    read ("moveresize" :: dimensions.map Dimension.selfParameter) =
      .ok ⟨none, .moveResize (dimensions.map Dimension.selfParameter)⟩ := by
  have subcommand : Word.ofString "moveresize" = .plain := rfl
  have known : Subcommand.ofName? "moveresize" = some .moveResize := rfl
  have no_help : "moveresize" ≠ "help" := by decide
  have arguments := readArguments_selfParameters dimensions []
  simp only [read, readWords, subcommand, ConfigOption.awaitsValue, ConfigOption.absent, known,
    if_neg no_help] at arguments ⊢
  simp [readSubcommand, arguments, ConfigOption.absent, ConfigOption.settle,
    Subcommand.invocation?]

end CommandLine

end WindowPlacement
