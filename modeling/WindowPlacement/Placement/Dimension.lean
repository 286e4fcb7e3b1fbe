/-!
# The four dimensions of a placement

A placement, and a preset that stands for one, says something about some of four
dimensions: the two coordinates of the frame's corner and its two sizes.
`Dimensions α` holds one value for each of them.
-/

namespace WindowPlacement

/-- What a placement can change about a window. -/
inductive Dimension
  | x
  | y
  | width
  | height
  deriving DecidableEq, Repr

namespace Dimension

/-- All dimensions, in the order in which they are treated and written. -/
def all : List Dimension :=
  [.x, .y, .width, .height]

theorem mem_all (dimension : Dimension) : dimension ∈ all := by
  cases dimension <;> decide

def name : Dimension → String
  | .x => "x"
  | .y => "y"
  | .width => "w"
  | .height => "h"

def ofName? (name : String) : Option Dimension :=
  all.find? fun dimension => dimension.name == name

theorem ofName?_name (dimension : Dimension) : ofName? dimension.name = some dimension := by
  cases dimension <;> rfl

theorem name_injective {dimension other : Dimension} (same : dimension.name = other.name) :
    dimension = other := by
  have found := other.ofName?_name
  rw [← same, dimension.ofName?_name] at found
  exact Option.some.inj found

theorem name_ne_preset (dimension : Dimension) : dimension.name ≠ "preset" := by
  cases dimension <;> decide

end Dimension

/-- One value for each dimension. -/
structure Dimensions (α : Type) where
  x : α
  y : α
  width : α
  height : α
  deriving BEq, Repr, Inhabited

namespace Dimensions

variable {α : Type}

/-- The same value for every dimension. -/
def replicate (value : α) : Dimensions α :=
  ⟨value, value, value, value⟩

def get (d : Dimensions α) : Dimension → α
  | .x => d.x
  | .y => d.y
  | .width => d.width
  | .height => d.height

/-- Put a value in the place of the one for a dimension. -/
def set (d : Dimensions α) (dimension : Dimension) (value : α) : Dimensions α :=
  match dimension with
  | .x => { d with x := value }
  | .y => { d with y := value }
  | .width => { d with width := value }
  | .height => { d with height := value }

@[simp]
theorem get_replicate (value : α) (dimension : Dimension) :
    (replicate value).get dimension = value := by
  cases dimension <;> rfl

/-- Only the value for the dimension itself changes. -/
theorem get_set (d : Dimensions α) (changed asked : Dimension) (value : α) :
    (d.set changed value).get asked = if asked = changed then value else d.get asked := by
  cases changed <;> cases asked <;> rfl

theorem ext_get {d other : Dimensions α}
    (same : ∀ dimension, d.get dimension = other.get dimension) : d = other := by
  cases d
  cases other
  simp only [mk.injEq]
  exact ⟨same .x, same .y, same .width, same .height⟩

end Dimensions

/-- A named placement of the configuration: the texts of some dimensions. -/
abbrev Preset :=
  Dimensions (Option String)

/-- The presets of a configuration by their names, each name once. -/
abbrev Presets :=
  List (String × Preset)

def Presets.find? (presets : Presets) (name : String) : Option Preset :=
  List.lookup name presets

end WindowPlacement
