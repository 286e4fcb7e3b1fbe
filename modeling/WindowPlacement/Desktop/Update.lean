import WindowPlacement.Desktop.Workspace

/-!
# Updates of a workspace

What happens to a workspace from outside: displays are plugged in, windows appear, change
or vanish, operations start or stop failing.  An update lists such changes, and they take
effect in the order of its fields.
-/

namespace WindowPlacement

/-- Changes to a workspace.  What is `none` or empty stays as it is. -/
structure WorkspaceUpdate where
  root : Option Rect
  heads : Option (List Rect)
  active : Option (Option WindowId)
  faults : Option (List String)
  windows : List ManagedWindow
  removed : List WindowId
  ghosts : List WindowId

namespace Workspace

/-- The workspace in which nothing has appeared yet. -/
def empty : Workspace where
  root := ⟨0, 0, 0, 0⟩
  heads := []
  active := none
  windows := []
  stacking := []
  faults := []

/-- Put a window in the place of the one with its id, or at the end and on top if there is
none. -/
def put (w : Workspace) (window : ManagedWindow) : Workspace :=
  match w.find? window.id with
  | some _ => w.modify window.id fun _ => window
  | none => { w with windows := w.windows ++ [window], stacking := w.stacking ++ [window.id] }

def remove (w : Workspace) (window : WindowId) : Workspace :=
  { w with
    windows := w.windows.filter fun candidate => candidate.id ≠ window
    stacking := w.stacking.filter fun candidate => candidate ≠ window }

def update (w : Workspace) (u : WorkspaceUpdate) : Workspace :=
  let w : Workspace :=
    { w with
      root := u.root.getD w.root
      heads := u.heads.getD w.heads
      active := u.active.getD w.active
      faults := u.faults.getD w.faults }
  let w := u.windows.foldl Workspace.put w
  let w := u.removed.foldl Workspace.remove w
  { w with stacking := w.stacking ++ u.ghosts }

end Workspace

end WindowPlacement
