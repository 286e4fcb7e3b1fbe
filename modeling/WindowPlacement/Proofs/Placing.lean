import WindowPlacement.Proofs.Calls
import WindowPlacement.Proofs.UsableArea

/-!
# Placing the active window

What a placement that succeeds does to a workspace: the frame of the active window is moved
to where the values of the four dimensions say, in the area that its head leaves to windows.
-/

namespace WindowPlacement

/-- The rectangle to request for a frame that is given relative to an area: the corner of the
frame in the root window and the size of the client area. -/
def requestIn (area : Rect) (extents : FrameExtents) (x y width height : Int) : Rect :=
  ⟨saturate (x + area.x), saturate (y + area.y),
    saturate (width - extents.horizontal), saturate (height - extents.vertical)⟩

namespace Placement

/-- A placement gives these values to the four dimensions. -/
structure Gives (p : Placement) (s : Surroundings) (x y width height : Int) : Prop where
  x : p.valueOf s .x = .ok x
  y : p.valueOf s .y = .ok y
  width : p.valueOf s .width = .ok width
  height : p.valueOf s .height = .ok height

/-- A placement has a target iff it gives a value to each of the four dimensions. -/
theorem target_eq_ok_iff {p : Placement} {window area : Rect} {extents : FrameExtents}
    {target : Rect} :
    p.target window area extents = .ok target ↔
      ∃ x y width height, p.Gives (.ofWindow window area) x y width height ∧
        target = requestIn area extents x y width height := by
  constructor
  · intro aimed
    simp only [Placement.target] at aimed
    split at aimed
    all_goals first | contradiction | skip
    rename_i x y width height atX atY atWidth atHeight
    exact ⟨x, y, width, height, ⟨atX, atY, atWidth, atHeight⟩, (Except.ok.inj aimed).symm⟩
  · rintro ⟨x, y, width, height, ⟨atX, atY, atWidth, atHeight⟩, rfl⟩
    simp [Placement.target, atX, atY, atWidth, atHeight, requestIn]

end Placement

namespace Workspace

def struts (w : Workspace) : List Strut :=
  (w.windows.map ManagedWindow.id).filterMap w.desktop.strut?

def areas (w : Workspace) (honorStruts : Bool) : Except Overflow (List Rect) :=
  if honorStruts then usableAreas w.root w.struts w.heads else .ok w.heads

theorem mem_struts_of_answer {w : Workspace} {client : ManagedWindow} {strut : Strut}
    (member : client ∈ w.windows) (answered : w.desktop.strut client.id = .ok (some strut)) :
    strut ∈ w.struts :=
  List.mem_filterMap.mpr
    ⟨client.id, List.mem_map_of_mem member, by simp [Desktop.strut?, answered]⟩

theorem areas_of_usableHead {w : Workspace} {honorStruts : Bool} {window area : Rect}
    (found : (w.desktop.usableHead honorStruts window).result = .ok area) :
    ∃ index areas, owningHead window w.heads = .ok index ∧ w.areas honorStruts = .ok areas ∧
      areas[index.val]? = some area := by
  obtain ⟨heads, index, answered, owned, left⟩ := Desktop.result_usableHead_eq_ok_iff.mp found
  obtain rfl := heads_eq_of_answer answered
  cases honorStruts with
  | false =>
    obtain rfl : area = w.heads.get index := left
    exact ⟨index, w.heads, owned, rfl, List.getElem?_eq_getElem index.isLt⟩
  | true =>
    rw [if_pos rfl] at left
    obtain ⟨root, clients, areas, rooted, listed, left, own⟩ := left
    obtain rfl := root_eq_of_answer rooted
    obtain rfl := clientList_eq_of_answer listed
    exact ⟨index, areas, owned, left, own⟩

/-- A placement that succeeds gives a value to each dimension of the active window, relative
to the area of the head that the window is on, and only the frame of this window changes. -/
theorem placed_of_run_succeeds {w : Workspace} {honorStruts : Bool} {placement : Placement}
    (succeeded : (w.run honorStruts (.moveResize placement)).1.failure = none) :
    ∃ window found index areas area x y width height,
      w.active = some window ∧ w.find? window = some found ∧
      owningHead found.frame w.heads = .ok index ∧
      w.areas honorStruts = .ok areas ∧ areas[index.val]? = some area ∧
      placement.Gives (.ofWindow found.frame area) x y width height ∧
      (w.run honorStruts (.moveResize placement)).2 =
        w.modify window fun candidate =>
          candidate.moveResize (requestIn area found.extents x y width height) := by
  obtain ⟨outcome, planned, -, effect⟩ := w.run_succeeds honorStruts _ succeeded
  obtain ⟨request, placed, rfl⟩ := Inquiry.result_map_eq_ok_iff.mp planned
  obtain ⟨window, frame, area, extents, target, active, framed, headed, decorated, aimed, rfl⟩ :=
    Desktop.result_planMoveResize_eq_ok_iff.mp placed
  obtain ⟨found, known, rfl⟩ := find?_of_answer framed
  obtain ⟨found', known', rfl⟩ := find?_of_answer decorated
  obtain rfl : found = found' := Option.some.inj (known.symm.trans known')
  obtain ⟨index, areas, owned, left, own⟩ := areas_of_usableHead headed
  obtain ⟨x, y, width, height, given, rfl⟩ := Placement.target_eq_ok_iff.mp aimed
  exact ⟨window, found, index, areas, area, x, y, width, height, active_eq_of_answer active, known,
    owned, left, own, given, by rw [effect]; rfl⟩

end Workspace

end WindowPlacement
