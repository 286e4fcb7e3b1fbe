import WindowPlacement.Command.Basic
import WindowPlacement.Geometry.Strut

/-!
# Desktops

A desktop is what a windowing system can be asked about: the root window, the display
heads, and the windows it manages.  Every answer may be a failure instead, of a type that
depends on the system.  What a command finally asks for is a `Request`, and there are only
three kinds of them.
-/

namespace WindowPlacement

/-- The number by which a window is known. -/
abbrev WindowId :=
  Nat

/-- The questions that a desktop answers. -/
inductive Query
  | root
  | heads
  | activeWindow
  | clientList
  | stackingOrder
  | frame (window : WindowId)
  | frameExtents (window : WindowId)
  | title (window : WindowId)
  | strut (window : WindowId)
  deriving DecidableEq, Repr

/-- The changes that a windowing system can be asked for.  The rectangle of `moveResize`
has the corner of the frame and the size of the client area. -/
inductive Request
  | moveResize (window : WindowId) (target : Rect)
  | activate (window : WindowId)
  | toggle (window : WindowId) (state : WindowState)
  deriving DecidableEq, Repr

def Request.window : Request → WindowId
  | .moveResize window _ => window
  | .activate window => window
  | .toggle window _ => window

/-- The answers of a windowing system to all questions.  `frame` is the decorated
rectangle of a window, and `stackingOrder` lists the windows from the bottom to the top. -/
structure Desktop (Failure : Type) where
  root : Except Failure Rect
  heads : Except Failure (List Rect)
  activeWindow : Except Failure WindowId
  clientList : Except Failure (List WindowId)
  stackingOrder : Except Failure (List WindowId)
  frame : WindowId → Except Failure Rect
  frameExtents : WindowId → Except Failure FrameExtents
  title : WindowId → Except Failure (Option String)
  strut : WindowId → Except Failure (Option Strut)

end WindowPlacement
