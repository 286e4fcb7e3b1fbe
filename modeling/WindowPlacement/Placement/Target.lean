import WindowPlacement.Expression.Evaluation
import WindowPlacement.Geometry.Rect
import WindowPlacement.Placement.Basic

/-!
# Where a placement puts a window

The expressions of a placement see the window relative to the usable area of its head.
Their values are truncated toward zero and clamped to 32-bit coordinates.  The corner is
then moved back into the root window's coordinates.  The sizes are those of the frame,
whereas a request sizes the client area, so the decorations are taken off.  A dimension
without an expression keeps its value.
-/

namespace WindowPlacement

/-- What the expressions for a window on a head see. -/
def Surroundings.ofWindow (window head : Rect) : Surroundings where
  x := window.x - head.x
  y := window.y - head.y
  width := window.width
  height := window.height
  screenWidth := head.width
  screenHeight := head.height

def Surroundings.current (s : Surroundings) : Dimension → Int
  | .x => s.x
  | .y => s.y
  | .width => s.width
  | .height => s.height

/-- A number as a 32-bit coordinate: truncated toward zero and clamped.  A value that is
no number counts as zero. -/
def coordinateOf (value : Float) : Int :=
  value.toModel.toInt32.toInt

namespace Placement

/-- The value that a placement gives to a dimension. -/
def valueOf (p : Placement) (s : Surroundings) (dimension : Dimension) :
    Except ArityMismatch Int :=
  match p.get dimension with
  | none => .ok (s.current dimension)
  | some e =>
    match e.eval s with
    | .error failure => .error failure
    | .ok value => .ok (coordinateOf value)

/-- The rectangle to request for a window: the corner of its frame in the root window and
the size of its client area.  Of several failures the one in the first dimension counts. -/
def target (p : Placement) (window head : Rect) (extents : FrameExtents) :
    Except ArityMismatch Rect :=
  let s := Surroundings.ofWindow window head
  match p.valueOf s .x, p.valueOf s .y, p.valueOf s .width, p.valueOf s .height with
  | .error failure, _, _, _ => .error failure
  | _, .error failure, _, _ => .error failure
  | _, _, .error failure, _ => .error failure
  | _, _, _, .error failure => .error failure
  | .ok x, .ok y, .ok width, .ok height =>
    .ok ⟨saturate (x + head.x), saturate (y + head.y),
      saturate (width - extents.horizontal), saturate (height - extents.vertical)⟩

/-- The expressions of some dimensions whose values are infinite or no numbers, with these
values.  Behind a failing expression nothing is evaluated any more. -/
def unboundedValues (p : Placement) (s : Surroundings) : List Dimension → List (Expression × Float)
  | [] => []
  | dimension :: rest =>
    match p.get dimension with
    | none => p.unboundedValues s rest
    | some e =>
      match e.eval s with
      | .error _ => []
      | .ok value =>
        if value.isFinite then
          p.unboundedValues s rest
        else
          (e, value) :: p.unboundedValues s rest

end Placement

end WindowPlacement
