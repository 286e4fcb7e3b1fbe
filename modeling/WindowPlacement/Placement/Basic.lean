import WindowPlacement.Command.Error
import WindowPlacement.Expression.Render
import WindowPlacement.Parameter

/-!
# Placements and their parameters

A placement gives expressions for some of the four dimensions of a window.  It is
collected from parameters `x=…`, `y=…`, `w=…` and `h=…`, each at most once, and
`preset=…`, which fills the dimensions that the other parameters leave out.  The
parameters are checked from left to right, the preset after all of them.
-/

namespace WindowPlacement

/-- Expressions for the dimensions of a window that are to change. -/
abbrev Placement :=
  Dimensions (Option Expression)

namespace Placement

/-- The placement that changes nothing. -/
def empty : Placement :=
  .replicate none

/-- Whether a placement changes nothing. -/
def isEmpty (p : Placement) : Bool :=
  p.x.isNone && p.y.isNone && p.width.isNone && p.height.isNone

theorem isEmpty_iff {p : Placement} : p.isEmpty = true ↔ ∀ dimension, p.get dimension = none := by
  simp only [isEmpty, Bool.and_eq_true, Option.isNone_iff_eq_none]
  constructor
  · rintro ⟨⟨⟨x, y⟩, width⟩, height⟩ (_ | _ | _ | _)
    · exact x
    · exact y
    · exact width
    · exact height
  · exact fun all => ⟨⟨⟨all .x, all .y⟩, all .width⟩, all .height⟩

/-- What a placement says about one dimension, in the form of a parameter. -/
def parameter? (p : Placement) (dimension : Dimension) : Option String :=
  (p.get dimension).map fun e => dimension.name ++ "=" ++ e.text

/-- The text of a placement: its parameters, separated by spaces. -/
def text (p : Placement) : String :=
  " ".intercalate (Dimension.all.filterMap p.parameter?)

/-- The placement and the preset collected from the parameters so far. -/
structure Collected where
  placement : Placement
  preset : Option String

def Collected.empty : Collected :=
  ⟨.empty, none⟩

def Collected.add (c : Collected) (argument : String) : Except ArgumentError Collected :=
  match Parameter.ofString? argument with
  | none => .error (.notAParameter argument)
  | some ⟨name, value⟩ =>
    if name = "preset" then
      match c.preset with
      | some _ => .error (.repeated name)
      | none => .ok { c with preset := some (Text.trimmed value) }
    else
      match Dimension.ofName? name with
      | none => .error (.unknownParameter "moveresize" name)
      | some dimension =>
        match c.placement.get dimension with
        | some _ => .error (.repeated name)
        | none =>
          match Expression.ofString value with
          | .error cause => .error (.badExpression dimension value cause)
          | .ok e => .ok { c with placement := c.placement.set dimension (some e) }

/-- Collect some parameters from left to right. -/
def Collected.addAll (c : Collected) : List String → Except ArgumentError Collected
  | [] => .ok c
  | argument :: rest =>
    match c.add argument with
    | .error refusal => .error refusal
    | .ok c => c.addAll rest

/-- Take the expression for one dimension from a preset, unless the placement has one or
the preset has none. -/
def fillDimension (name : String) (preset : Preset) (p : Placement) (dimension : Dimension) :
    Except ArgumentError Placement :=
  match p.get dimension, preset.get dimension with
  | some _, _ | none, none => .ok p
  | none, some text =>
    match Expression.ofString text with
    | .error cause => .error (.badPreset name dimension text cause)
    | .ok e => .ok (p.set dimension (some e))

/-- Take the expressions for some dimensions from a preset, one after the other. -/
def fill (name : String) (preset : Preset) (p : Placement) :
    List Dimension → Except ArgumentError Placement
  | [] => .ok p
  | dimension :: rest =>
    match p.fillDimension name preset dimension with
    | .error refusal => .error refusal
    | .ok p => p.fill name preset rest

/-- Complete what has been collected by its preset. -/
def Collected.complete (presets : Presets) (c : Collected) : Except ArgumentError Placement :=
  match c.preset with
  | none => .ok c.placement
  | some name =>
    match presets.find? name with
    | none => .error (.unknownPreset name)
    | some preset => c.placement.fill name preset Dimension.all

/-- The placement that some parameters describe.  It changes at least one dimension. -/
def ofParameters (presets : Presets) (arguments : List String) :
    Except ArgumentError Placement :=
  match Collected.empty.addAll arguments with
  | .error refusal => .error refusal
  | .ok collected =>
    match collected.complete presets with
    | .error refusal => .error refusal
    | .ok p => if p.isEmpty then .error .nothingToDo else .ok p

end Placement

end WindowPlacement
