import WindowPlacement.Proofs.UsableArea
import WindowPlacement.Proofs.Workspace

/-!
# Framing a window

A request sizes the client area of a window, and the decorations come on top of that.  The
request for a frame's corner and for its size without the decorations gives the window this
frame, and it changes nothing else about the workspace.
-/

namespace WindowPlacement

structure FrameExtents.Nonneg (e : FrameExtents) : Prop where
  left : 0 ≤ e.left
  right : 0 ≤ e.right
  top : 0 ≤ e.top
  bottom : 0 ≤ e.bottom

instance (e : FrameExtents) : Decidable e.Nonneg :=
  decidable_of_iff ((0 ≤ e.left ∧ 0 ≤ e.right) ∧ 0 ≤ e.top ∧ 0 ≤ e.bottom)
    ⟨fun ⟨⟨left, right⟩, top, bottom⟩ => ⟨left, right, top, bottom⟩,
      fun ⟨left, right, top, bottom⟩ => ⟨⟨left, right⟩, top, bottom⟩⟩

/-- The size of a frame and that of the client area within it are 32-bit coordinates. -/
structure FrameExtents.FitsIn (e : FrameExtents) (width height : Int) : Prop where
  frameWidth : IsCoordinate width
  frameHeight : IsCoordinate height
  clientWidth : IsCoordinate (width - e.horizontal)
  clientHeight : IsCoordinate (height - e.vertical)

instance (e : FrameExtents) (width height : Int) : Decidable (e.FitsIn width height) :=
  decidable_of_iff
    ((IsCoordinate width ∧ IsCoordinate height) ∧
      IsCoordinate (width - e.horizontal) ∧ IsCoordinate (height - e.vertical))
    ⟨fun ⟨⟨frameWidth, frameHeight⟩, clientWidth, clientHeight⟩ =>
        ⟨frameWidth, frameHeight, clientWidth, clientHeight⟩,
      fun ⟨frameWidth, frameHeight, clientWidth, clientHeight⟩ =>
        ⟨⟨frameWidth, frameHeight⟩, clientWidth, clientHeight⟩⟩

theorem regrown_eq {size near far : Int} (near_nonneg : 0 ≤ near) (far_nonneg : 0 ≤ far)
    (whole : IsCoordinate size) (client : IsCoordinate (size - (near + far))) :
    saturate (saturate (size - (near + far) + near) + far) = size := by
  obtain ⟨low, high⟩ := whole
  obtain ⟨client_low, -⟩ := client
  have inner : saturate (size - (near + far) + near) = size - (near + far) + near :=
    saturate_eq_self (by omega) (by omega)
  have restored : size - (near + far) + near + far = size := by omega
  rw [inner, restored, saturate_eq_self low high]

/-- A window gets the frame whose corner and client size are asked for. -/
theorem ManagedWindow.moveResize_eq (found : ManagedWindow) {width height : Int}
    (decorated : found.extents.Nonneg) (fits : found.extents.FitsIn width height) (x y : Int) :
    found.moveResize
        ⟨x, y, width - found.extents.horizontal, height - found.extents.vertical⟩ =
      { found with frame := ⟨x, y, width, height⟩ } := by
  have across := regrown_eq decorated.left decorated.right fits.frameWidth fits.clientWidth
  have down := regrown_eq decorated.top decorated.bottom fits.frameHeight fits.clientHeight
  simp only [moveResize, FrameExtents.horizontal, FrameExtents.vertical, across, down]

namespace Workspace

/-- A workspace differs from another one in the frame of a window and in nothing else. -/
structure Reframed (w : Workspace) (window : WindowId) (frame : Rect) (after : Workspace) :
    Prop where
  elsewhere : after = { w with windows := after.windows }
  ids : after.windows.map ManagedWindow.id = w.windows.map ManagedWindow.id
  framed : after.find? window = (w.find? window).map fun found => { found with frame := frame }
  others : ∀ other, other ≠ window → after.find? other = w.find? other

theorem reframed_modify {w : Workspace} {window : WindowId} {found : ManagedWindow}
    {target frame : Rect} (known : w.find? window = some found)
    (effect : found.moveResize target = { found with frame := frame }) :
    w.Reframed window frame (w.modify window fun candidate => candidate.moveResize target) where
  elsewhere := rfl
  ids := w.ids_modify window (fun candidate => candidate.moveResize target) fun _ => rfl
  framed := by
    have changed := w.find?_modify window (fun candidate => candidate.moveResize target)
      fun _ => rfl
    rw [changed, known, Option.map_some, Option.map_some, effect]
  others _ differs :=
    w.find?_modify_of_ne window (fun candidate => candidate.moveResize target) (fun _ => rfl)
      differs

end Workspace

end WindowPlacement
