import WindowPlacement.Placement.Target

/-!
# What an expression mentions

The value of an expression depends on the measures that occur in it and on no others.  So a
placement whose expressions mention nothing that the placement changes has the same values for a
window before and after the change.
-/

namespace WindowPlacement

namespace Expression

mutual

def measures : Expression → List Measure
  | .constant _ => []
  | .measure m => [m]
  | .call _ arguments => measuresOf arguments

def measuresOf : List Expression → List Measure
  | [] => []
  | argument :: rest => argument.measures ++ measuresOf rest

end

mutual

theorem eval_congr {s s' : Surroundings} :
    ∀ e : Expression, (∀ m ∈ e.measures, s.value m = s'.value m) → e.eval s = e.eval s'
  | .constant value, _ => by rw [eval, eval]
  | .measure m, agree => by
    have same : s.value m = s'.value m := agree m (by simp [measures])
    rw [eval, eval, same]
  | .call operator arguments, agree => by
    have same : evalArguments s arguments = evalArguments s' arguments :=
      evalArguments_congr arguments fun m mentioned => agree m (by rwa [measures])
    rw [eval, eval, same]

theorem evalArguments_congr {s s' : Surroundings} :
    ∀ arguments : List Expression, (∀ m ∈ measuresOf arguments, s.value m = s'.value m) →
      evalArguments s arguments = evalArguments s' arguments
  | [], _ => by rw [evalArguments, evalArguments]
  | argument :: rest, agree => by
    have first : argument.eval s = argument.eval s' :=
      eval_congr argument fun m mentioned => agree m (by simp [measuresOf, mentioned])
    have others : evalArguments s rest = evalArguments s' rest :=
      evalArguments_congr rest fun m mentioned => agree m (by simp [measuresOf, mentioned])
    rw [evalArguments, evalArguments, first, others]

end

end Expression

def Dimension.measure : Dimension → Measure
  | .x => .x
  | .y => .y
  | .width => .width
  | .height => .height

namespace Surroundings

theorem value_measure (s : Surroundings) (dimension : Dimension) :
    s.value dimension.measure = s.current dimension := by
  cases dimension <;> rfl

/-- Surroundings with the same screen agree on a measure if they agree on the dimension that it
is the measure of. -/
theorem value_congr {s s' : Surroundings} (screenWidth : s.screenWidth = s'.screenWidth)
    (screenHeight : s.screenHeight = s'.screenHeight) {m : Measure}
    (same : ∀ dimension : Dimension, dimension.measure = m →
      s.current dimension = s'.current dimension) : s.value m = s'.value m := by
  cases m with
  | x => exact same .x rfl
  | y => exact same .y rfl
  | width => exact same .width rfl
  | height => exact same .height rfl
  | screenWidth => exact screenWidth
  | screenHeight => exact screenHeight

end Surroundings

namespace Placement

/-- No expression of a placement mentions a dimension that the placement changes. -/
def IsIndependent (p : Placement) : Prop :=
  ∀ dimension e, p.get dimension = some e →
    ∀ changed : Dimension, changed.measure ∈ e.measures → p.get changed = none

theorem IsIndependent.valueOf_congr {p : Placement} (independent : p.IsIndependent)
    {s s' : Surroundings} (screenWidth : s.screenWidth = s'.screenWidth)
    (screenHeight : s.screenHeight = s'.screenHeight)
    (unchanged : ∀ dimension, p.get dimension = none →
      s.current dimension = s'.current dimension) (dimension : Dimension) :
    p.valueOf s dimension = p.valueOf s' dimension := by
  rw [valueOf, valueOf]
  cases chosen : p.get dimension with
  | none => rw [unchanged dimension chosen]
  | some e =>
    have same : e.eval s = e.eval s' := by
      refine e.eval_congr fun m mentioned => ?_
      refine Surroundings.value_congr screenWidth screenHeight fun changed measured => ?_
      exact unchanged changed (independent dimension e chosen changed (measured ▸ mentioned))
    simp only [same]

theorem target_congr {p : Placement} {window window' area : Rect} {extents : FrameExtents}
    (same : ∀ dimension, p.valueOf (.ofWindow window area) dimension =
      p.valueOf (.ofWindow window' area) dimension) :
    p.target window area extents = p.target window' area extents := by
  simp only [target, same]

end Placement

end WindowPlacement
