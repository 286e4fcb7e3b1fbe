import WindowPlacement.Geometry.Rect

/-!
# Struts and the usable area of a head

A window may reserve space along the edges of the root window: a panel, for instance,
keeps the rows of pixels it covers free of other windows.  The usable area of a head is
what the struts of all windows leave of it.  Whether a strut applies to a head is decided
by the head as it was, and an edge only ever moves inward, so the order of the struts does
not matter.
-/

namespace WindowPlacement

/-- The part of an edge that is reserved, from the first to the last pixel. -/
structure Span where
  first : Nat
  last : Nat
  deriving DecidableEq, Repr, Inhabited

/-- Space reserved along the edges of the root window.  Each inset is measured from its
edge, and applies along its span. -/
structure Strut where
  left : Nat
  right : Nat
  top : Nat
  bottom : Nat
  leftSpan : Span
  rightSpan : Span
  topSpan : Span
  bottomSpan : Span
  deriving DecidableEq, Repr, Inhabited

def Span.wholeEdge : Span :=
  ⟨0, 0⟩

/-- Whether a span touches the pixels from `low` up to but without `high`. -/
def Span.touches (span : Span) (low high : Int) : Bool :=
  span == .wholeEdge || (span.first < high && low ≤ span.last)

namespace Strut

/-- The strut that twelve numbers describe: the four insets, then the ends of the four
spans.  Numbers behind the twelfth do not count. -/
def ofPartial? : List Nat → Option Strut
  | left :: right :: top :: bottom :: leftFirst :: leftLast :: rightFirst :: rightLast ::
      topFirst :: topLast :: bottomFirst :: bottomLast :: _ =>
    some ⟨left, right, top, bottom, ⟨leftFirst, leftLast⟩, ⟨rightFirst, rightLast⟩,
      ⟨topFirst, topLast⟩, ⟨bottomFirst, bottomLast⟩⟩
  | _ => none

/-- The strut that four insets describe, each along its whole edge. -/
def ofInsets? : List Nat → Option Strut
  | left :: right :: top :: bottom :: _ =>
    some ⟨left, right, top, bottom, .wholeEdge, .wholeEdge, .wholeEdge, .wholeEdge⟩
  | _ => none

end Strut

/-- The four edges of an area. -/
structure Edges where
  left : Int
  right : Int
  top : Int
  bottom : Int
  deriving DecidableEq, Repr

namespace Edges

def ofRect (r : Rect) : Edges :=
  ⟨r.x, r.right, r.y, r.bottom⟩

/-- The edges after a strut has been taken off.  The strut's spans are compared with the
head as it was; its insets count from the edges of the root window. -/
def reserve (head root : Rect) (edges : Edges) (strut : Strut) : Edges where
  left := if 0 < strut.left ∧ strut.leftSpan.touches head.y head.bottom then
      max edges.left (saturate (root.x + strut.left))
    else
      edges.left
  right := if 0 < strut.right ∧ strut.rightSpan.touches head.y head.bottom then
      min edges.right (saturate (root.right - strut.right))
    else
      edges.right
  top := if 0 < strut.top ∧ strut.topSpan.touches head.x head.right then
      max edges.top (saturate (root.y + strut.top))
    else
      edges.top
  bottom := if 0 < strut.bottom ∧ strut.bottomSpan.touches head.x head.right then
      min edges.bottom (saturate (root.bottom - strut.bottom))
    else
      edges.bottom

/-- The edges with a corner that has not moved past the far edges of the head.  This is where a
head ends up of which nothing is left. -/
def withCornerOn (edges : Edges) (head : Rect) : Edges :=
  { edges with left := min edges.left head.right, top := min edges.top head.bottom }

/-- The rectangle between edges, empty in a direction in which they have crossed.  But the distances
between the edges have to be 32-bit numbers even then. -/
def toRect (edges : Edges) : Except Overflow Rect := do
  let width ← subtract edges.right edges.left
  let height ← subtract edges.bottom edges.top
  return ⟨edges.left, edges.top, max width 0, max height 0⟩

end Edges

/-- The edges of what some struts leave of a head. -/
def remainder (root : Rect) (struts : List Strut) (head : Rect) : Edges :=
  (struts.foldl (Edges.reserve head root) (.ofRect head)).withCornerOn head

/-- The far edges of the root window are 32-bit numbers, where an inset of a strut counts from them
and applies to the head. -/
def Strut.CountsFrom (strut : Strut) (head root : Rect) : Prop :=
  (0 < strut.right ∧ strut.rightSpan.touches head.y head.bottom → IsCoordinate root.right) ∧
    (0 < strut.bottom ∧ strut.bottomSpan.touches head.x head.right → IsCoordinate root.bottom)

instance (strut : Strut) (head root : Rect) : Decidable (strut.CountsFrom head root) :=
  inferInstanceAs (Decidable (_ ∧ _))

/-- All far edges that are looked at when some struts are taken off a head are 32-bit numbers. -/
def FarEdgesFit (root : Rect) (struts : List Strut) (head : Rect) : Prop :=
  (IsCoordinate head.right ∧ IsCoordinate head.bottom) ∧
    ∀ strut ∈ struts, strut.CountsFrom head root

instance (root : Rect) (struts : List Strut) (head : Rect) :
    Decidable (FarEdgesFit root struts head) :=
  inferInstanceAs (Decidable (_ ∧ _))

/-- The part of a head that some struts leave to windows. -/
def usableArea (root : Rect) (struts : List Strut) (head : Rect) : Except Overflow Rect :=
  if FarEdgesFit root struts head then (remainder root struts head).toRect else .error .addition

/-- The parts of some heads that some struts leave to windows.  An overflow on any of the heads
leaves no area of the others either. -/
def usableAreas (root : Rect) (struts : List Strut) (heads : List Rect) :
    Except Overflow (List Rect) :=
  heads.mapM (usableArea root struts)

end WindowPlacement
