import WindowPlacement.Proofs.PlacedFrame

/-!
# Placements move with the head

Expressions see a window relative to the area that it is placed in, so where a placement puts the
window does not depend on where in the root window the area is.  Each dimension of the target comes
from the expression for this dimension alone.
-/

namespace WindowPlacement

def Rect.shift (r : Rect) (dx dy : Int) : Rect :=
  ⟨r.x + dx, r.y + dy, r.width, r.height⟩

theorem Surroundings.ofWindow_shift (window area : Rect) (dx dy : Int) :
    ofWindow (window.shift dx dy) (area.shift dx dy) = ofWindow window area := by
  simp only [ofWindow, Rect.shift, mk.injEq, and_true]
  omega

/-- The corner of a request is that of the frame when its coordinates are not clamped. -/
theorem requestIn_of_isCoordinate {area : Rect} {x y : Int} (fits_x : IsCoordinate (x + area.x))
    (fits_y : IsCoordinate (y + area.y)) (extents : FrameExtents) (width height : Int) :
    requestIn area extents x y width height = ⟨x + area.x, y + area.y,
      saturate (width - extents.horizontal), saturate (height - extents.vertical)⟩ := by
  rw [requestIn, saturate_eq_self fits_x.1 fits_x.2, saturate_eq_self fits_y.1 fits_y.2]

namespace Placement

/-- The corner that a placement asks for in an area has 32-bit coordinates in the root window. -/
structure CornerFits (p : Placement) (window area : Rect) : Prop where
  x : ∀ n, p.valueOf (.ofWindow window area) .x = .ok n → IsCoordinate (n + area.x)
  y : ∀ n, p.valueOf (.ofWindow window area) .y = .ok n → IsCoordinate (n + area.y)

theorem Gives.cornerFits {p : Placement} {window area : Rect} {x y width height : Int}
    (given : p.Gives (.ofWindow window area) x y width height) (fits_x : IsCoordinate (x + area.x))
    (fits_y : IsCoordinate (y + area.y)) : p.CornerFits window area := by
  constructor
  · intro n at_x
    rw [given.x] at at_x
    rwa [← Except.ok.inj at_x]
  · intro n at_y
    rw [given.y] at at_y
    rwa [← Except.ok.inj at_y]

section Shift

variable {p : Placement} {window area : Rect} {dx dy : Int}

theorem target_shift (extents : FrameExtents) (fits : p.CornerFits window area)
    (fits_there : p.CornerFits (window.shift dx dy) (area.shift dx dy)) :
    p.target (window.shift dx dy) (area.shift dx dy) extents =
      (p.target window area extents).map (Rect.shift · dx dy) := by
  obtain ⟨x_there, y_there⟩ := fits_there
  rw [Surroundings.ofWindow_shift] at x_there y_there
  simp only [target, Surroundings.ofWindow_shift]
  split
  · rfl
  · rfl
  · rfl
  · rfl
  · next x y width height at_x at_y _ _ =>
    have here := requestIn_of_isCoordinate (fits.x x at_x) (fits.y y at_y) extents width height
    have there := requestIn_of_isCoordinate (x_there x at_x) (y_there y at_y) extents width height
    change Except.ok (requestIn (area.shift dx dy) extents x y width height) =
      Except.ok ((requestIn area extents x y width height).shift dx dy)
    rw [here, there]
    simp only [Rect.shift, Except.ok.injEq, Rect.mk.injEq, and_true]
    omega

end Shift

theorem valueOf_eq_of_get_eq {p q : Placement} {dimension : Dimension}
    (same : p.get dimension = q.get dimension) (s : Surroundings) :
    p.valueOf s dimension = q.valueOf s dimension := by
  rw [valueOf, valueOf, same]

/-- A dimension as it is asked for: a coordinate in the root window, or a size without the
decorations. -/
def requested (area : Rect) (extents : FrameExtents) (n : ℤ) : Dimension → ℤ
  | .x => saturate (n + area.x)
  | .y => saturate (n + area.y)
  | .width => saturate (n - extents.horizontal)
  | .height => saturate (n - extents.vertical)

theorem exists_value_of_target_eq_ok {p : Placement} {window area target : Rect}
    {extents : FrameExtents} (aimed : p.target window area extents = .ok target)
    (dimension : Dimension) :
    ∃ n, p.valueOf (.ofWindow window area) dimension = .ok n ∧
      target.get dimension = requested area extents n dimension := by
  obtain ⟨x, y, width, height, given, rfl⟩ := target_eq_ok_iff.mp aimed
  cases dimension with
  | x => exact ⟨x, given.x, rfl⟩
  | y => exact ⟨y, given.y, rfl⟩
  | width => exact ⟨width, given.width, rfl⟩
  | height => exact ⟨height, given.height, rfl⟩

theorem get_target_eq {p q : Placement} {window area before after : Rect} {extents : FrameExtents}
    {dimension : Dimension} (same : p.get dimension = q.get dimension)
    (aimed : p.target window area extents = .ok before)
    (aimed_again : q.target window area extents = .ok after) :
    after.get dimension = before.get dimension := by
  obtain ⟨n, given, at_dimension⟩ := exists_value_of_target_eq_ok aimed dimension
  obtain ⟨n', given', at_dimension'⟩ := exists_value_of_target_eq_ok aimed_again dimension
  rw [valueOf_eq_of_get_eq same, given', Except.ok.injEq] at given
  rw [at_dimension, at_dimension', given]

/-- A placement is relative to the area of the head, and its dimensions do not depend on one
another. -/
theorem target_is_relative (p : Placement) (window area : Rect) (extents : FrameExtents) :
    (∀ dx dy, p.CornerFits window area →
      p.CornerFits (window.shift dx dy) (area.shift dx dy) →
        p.target (window.shift dx dy) (area.shift dx dy) extents =
          (p.target window area extents).map (Rect.shift · dx dy)) ∧
    ∀ changed value other before after, other ≠ changed →
      p.target window area extents = .ok before →
      target (p.set changed value) window area extents = .ok after →
        after.get other = before.get other := by
  constructor
  · intro dx dy fits fits_there
    exact target_shift extents fits fits_there
  · intro changed value other before after differs aimed aimed_again
    apply get_target_eq _ aimed aimed_again
    rw [Dimensions.get_set, if_neg differs]

/-- A band in the middle of the second head, once more with that head below the first one. -/
theorem centeredBand_is_relative :
    Workspace.centeredBand.target ⟨180, 1380, 800, 600⟩ ⟨0, 1120, 2560, 1400⟩ ⟨1, 1, 24, 1⟩ =
        .ok ⟨880, 1380, 798, 175⟩ ∧
      ∀ after, target (Workspace.centeredBand.set .width (some (.measure .screenWidth)))
        ⟨2100, 300, 800, 600⟩ ⟨1920, 40, 2560, 1400⟩ ⟨1, 1, 24, 1⟩ = .ok after → after.y = 300 := by
  have relative := target_is_relative Workspace.centeredBand ⟨2100, 300, 800, 600⟩
    ⟨1920, 40, 2560, 1400⟩ ⟨1, 1, 24, 1⟩
  have aimed : Workspace.centeredBand.target ⟨2100, 300, 800, 600⟩ ⟨1920, 40, 2560, 1400⟩
      ⟨1, 1, 24, 1⟩ = .ok ⟨2800, 300, 798, 175⟩ := by
    decide +kernel
  have given : Workspace.centeredBand.Gives
      (.ofWindow ⟨2100, 300, 800, 600⟩ ⟨1920, 40, 2560, 1400⟩) 880 260 800 200 :=
    ⟨rfl, rfl, rfl, rfl⟩
  constructor
  · have given_below : Workspace.centeredBand.Gives
        (.ofWindow (Rect.shift ⟨2100, 300, 800, 600⟩ (-1920) 1080)
          (Rect.shift ⟨1920, 40, 2560, 1400⟩ (-1920) 1080)) 880 260 800 200 := by
      rw [Surroundings.ofWindow_shift]
      exact given
    have fits := given.cornerFits (by decide) (by decide)
    have fits_below := given_below.cornerFits (by decide) (by decide)
    have below := relative.1 (-1920) 1080 fits fits_below
    rw [aimed] at below
    exact below
  · intro after aimed_again
    exact relative.2 .width _ .y _ after (by decide) aimed aimed_again

end Placement

end WindowPlacement
