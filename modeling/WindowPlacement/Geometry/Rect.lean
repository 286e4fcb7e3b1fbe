/-!
# Rectangles and coordinates

All geometry is in pixels of one coordinate space, that of the root window.  Positions
and sizes are exact integers; only where a result is handed on as a 32-bit coordinate it
is clamped by `saturate`, or has to be one already.
-/

namespace WindowPlacement

def leastCoordinate : Int := -2147483648

def greatestCoordinate : Int := 2147483647

/-- The 32-bit coordinate nearest to a number. -/
def saturate (n : Int) : Int :=
  max leastCoordinate (min n greatestCoordinate)

/-- A number that is a 32-bit coordinate stays as it is. -/
theorem saturate_eq_self {n : Int} (low : leastCoordinate ≤ n)
    (high : n ≤ greatestCoordinate) : saturate n = n := by
  simp only [saturate]
  omega

def IsCoordinate (n : Int) : Prop :=
  leastCoordinate ≤ n ∧ n ≤ greatestCoordinate

instance (n : Int) : Decidable (IsCoordinate n) :=
  inferInstanceAs (Decidable (_ ∧ _))

/-- The result of an operation on 32-bit numbers is none, which ends the program. -/
inductive Overflow
  | addition
  | subtraction
  deriving DecidableEq, Repr

def Overflow.message : Overflow → String
  | .addition => "attempt to add with overflow"
  | .subtraction => "attempt to subtract with overflow"

/-- The difference of two 32-bit numbers, as a 32-bit number. -/
def subtract (a b : Int) : Except Overflow Int :=
  if IsCoordinate (a - b) then .ok (a - b) else .error .subtraction

/-- An axis-aligned rectangle, as its top-left corner and its size. -/
structure Rect where
  x : Int
  y : Int
  width : Int
  height : Int
  deriving DecidableEq, Repr, Inhabited

namespace Rect

/-- The first column behind the rectangle. -/
def right (r : Rect) : Int :=
  r.x + r.width

/-- The first row below the rectangle. -/
def bottom (r : Rect) : Int :=
  r.y + r.height

/-- The point half the size away from the corner; half a size is rounded toward zero. -/
def center (r : Rect) : Int × Int :=
  (r.x + r.width.tdiv 2, r.y + r.height.tdiv 2)

/-- Whether a point lies in the rectangle or on any of its four edges. -/
def containsPoint (r : Rect) (x y : Int) : Bool :=
  r.x ≤ x && x ≤ r.right && r.y ≤ y && y ≤ r.bottom

/-- Whether another rectangle lies within the rectangle. -/
def containsRect (r other : Rect) : Bool :=
  r.x ≤ other.x && r.y ≤ other.y && other.right ≤ r.right && other.bottom ≤ r.bottom

/-- The geometry text of a rectangle: its size and then its corner. -/
def text (r : Rect) : String :=
  toString r.width ++ "x" ++ toString r.height ++ "+" ++ toString r.x ++ "+" ++ toString r.y

/-- A point lies in the rectangle or on its edges iff both coordinates are in range. -/
theorem containsPoint_iff (r : Rect) (x y : Int) :
    r.containsPoint x y = true ↔ (r.x ≤ x ∧ x ≤ r.right) ∧ r.y ≤ y ∧ y ≤ r.bottom := by
  simp [containsPoint, and_assoc]

/-- A rectangle lies within another iff none of its edges is outside. -/
theorem containsRect_iff (r other : Rect) :
    r.containsRect other = true ↔
      (r.x ≤ other.x ∧ r.y ≤ other.y) ∧ other.right ≤ r.right ∧ other.bottom ≤ r.bottom := by
  simp [containsRect, and_assoc]

end Rect

/-- The thickness of the decorations around the client area of a window. -/
structure FrameExtents where
  left : Int
  right : Int
  top : Int
  bottom : Int
  deriving DecidableEq, Repr, Inhabited

namespace FrameExtents

/-- The extents of a window without decorations. -/
def zero : FrameExtents :=
  ⟨0, 0, 0, 0⟩

/-- What the decorations add to the width. -/
def horizontal (e : FrameExtents) : Int :=
  e.left + e.right

/-- What the decorations add to the height. -/
def vertical (e : FrameExtents) : Int :=
  e.top + e.bottom

end FrameExtents

end WindowPlacement
