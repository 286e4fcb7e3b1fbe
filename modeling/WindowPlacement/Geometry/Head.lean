import WindowPlacement.Geometry.Rect

/-!
# Display heads

A head is one display, a rectangle of the root window.  A window belongs to the first
head that its center lies on.  A head that shows nothing but a part of another one is a
mirror of it and no head of its own.
-/

namespace WindowPlacement

/-- Why a window belongs to no head. -/
inductive HeadError
  | noHeads
  | noOwner (window : Rect)
  deriving DecidableEq, Repr

def HeadError.message : HeadError → String
  | .noHeads => "no display heads available"
  | .noOwner window => "cannot locate head for window " ++ window.text

/-- The index of the head that a window belongs to.  A single head owns every window;
of several, the first one that the center of the window lies on. -/
def owningHead (window : Rect) : (heads : List Rect) → Except HeadError (Fin heads.length)
  | [] => .error .noHeads
  | [_] => .ok ⟨0, Nat.zero_lt_one⟩
  | first :: second :: rest =>
    match (first :: second :: rest).findFinIdx? fun head =>
        head.containsPoint window.center.1 window.center.2 with
    | some index => .ok index
    | none => .error (.noOwner window)

/-- Whether the head at an index shows only what another head shows: it lies within one
that is different or earlier. -/
def isMirror (heads : List Rect) (index : Nat) (head : Rect) : Bool :=
  heads.zipIdx.any fun (other, position) =>
    position != index && other.containsRect head && (other != head || position < index)

def physicalHeads (heads : List Rect) : List Rect :=
  (heads.zipIdx.filter fun (head, index) => !isMirror heads index head).map Prod.fst

end WindowPlacement
