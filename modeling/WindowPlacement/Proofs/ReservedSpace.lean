import WindowPlacement.Proofs.Placing

/-!
# Reserved space stays free

A placement whose values keep the frame within the usable area never covers a pixel that a
strut reserves, nor one outside of the head.
-/

namespace WindowPlacement

/-- The decorations of a window are of a size that 32-bit coordinates can hold. -/
structure FrameExtents.InRange (e : FrameExtents) : Prop where
  left : 0 ≤ e.left
  right : 0 ≤ e.right
  top : 0 ≤ e.top
  bottom : 0 ≤ e.bottom
  horizontal : e.horizontal ≤ greatestCoordinate
  vertical : e.vertical ≤ greatestCoordinate

instance (e : FrameExtents) : Decidable e.InRange :=
  decidable_of_iff
    ((0 ≤ e.left ∧ 0 ≤ e.right) ∧ (0 ≤ e.top ∧ 0 ≤ e.bottom) ∧
      e.horizontal ≤ greatestCoordinate ∧ e.vertical ≤ greatestCoordinate)
    ⟨fun ⟨⟨left, right⟩, ⟨top, bottom⟩, horizontal, vertical⟩ =>
        ⟨left, right, top, bottom, horizontal, vertical⟩,
      fun ⟨left, right, top, bottom, horizontal, vertical⟩ =>
        ⟨⟨left, right⟩, ⟨top, bottom⟩, horizontal, vertical⟩⟩

/-- Taking the decorations off a size and adding them again never makes it larger, unless
nothing of it was there. -/
theorem regrown_le (size : Int) {near far : Int} (nearNonneg : 0 ≤ near) (farNonneg : 0 ≤ far)
    (fits : near + far ≤ greatestCoordinate)
    (left : 0 < saturate (saturate (saturate (size - (near + far)) + near) + far)) :
    saturate (saturate (saturate (size - (near + far)) + near) + far) ≤ size := by
  simp only [saturate, leastCoordinate, greatestCoordinate] at *
  omega

theorem le_saturate_add {offset corner : Int} (nonneg : 0 ≤ offset)
    (inRange : IsCoordinate corner) :
    corner ≤ saturate (offset + corner) ∧ saturate (offset + corner) ≤ offset + corner := by
  simp only [saturate, IsCoordinate, leastCoordinate, greatestCoordinate] at *
  omega

/-- The frame that comes of a request covers no pixel outside of the area, if its values keep
it there. -/
theorem ManagedWindow.covers_of_covers_moveResize {found : ManagedWindow} {area : Rect}
    (decorated : found.extents.InRange) (corner : IsCoordinate area.x ∧ IsCoordinate area.y)
    {x y width height : Int} (atLeft : 0 ≤ x) (atTop : 0 ≤ y)
    (atRight : x + width ≤ area.width) (atBottom : y + height ≤ area.height) {px py : Int}
    (covered : (found.moveResize
      (requestIn area found.extents x y width height)).frame.Covers px py) :
    area.Covers px py := by
  obtain ⟨⟨left, right⟩, top, bottom⟩ := covered
  simp only [moveResize, requestIn, Rect.right, Rect.bottom] at left right top bottom
  have leftEdge := le_saturate_add atLeft corner.1
  have topEdge := le_saturate_add atTop corner.2
  have fullWidth := regrown_le width decorated.left decorated.right
    decorated.horizontal (by rw [FrameExtents.horizontal] at right; omega)
  have fullHeight := regrown_le height decorated.top decorated.bottom
    decorated.vertical (by rw [FrameExtents.vertical] at bottom; omega)
  simp only [Rect.Covers, Rect.right, Rect.bottom, FrameExtents.horizontal,
    FrameExtents.vertical] at *
  omega

namespace Workspace

/-- After a placement, the frame of the active window keeps to its head and off the pixels that
the readable struts reserve, provided that the values of the placement lie within the usable
area of the head. -/
def StaysClear (w : Workspace) (placement : Placement) (after : Workspace) : Prop :=
  ∃ window found moved index areas usable x y width height,
    w.active = some window ∧ w.find? window = some found ∧
    after.find? window = some moved ∧ owningHead found.frame w.heads = .ok index ∧
    usableAreas w.root w.struts w.heads = .ok areas ∧ areas[index.val]? = some usable ∧
    placement.Gives (.ofWindow found.frame usable) x y width height ∧
    (0 ≤ x → 0 ≤ y → x + width ≤ usable.width → y + height ≤ usable.height →
      ∀ px py, moved.frame.Covers px py →
        (w.heads.get index).Covers px py ∧
        ∀ client ∈ w.windows, ∀ strut, w.desktop.strut client.id = .ok (some strut) →
          ¬ strut.Reserves w.root px py)

/-- A placement that succeeds never covers reserved space. -/
theorem placed_frame_stays_clear (w : Workspace) (placement : Placement)
    (cornersInRange : ∀ head ∈ w.heads, IsCoordinate head.x ∧ IsCoordinate head.y)
    (extentsInRange : ∀ window found, w.active = some window → w.find? window = some found →
      found.extents.InRange)
    (succeeded : (w.run true (.moveResize placement)).1.failure = none) :
    w.StaysClear placement (w.run true (.moveResize placement)).2 := by
  obtain ⟨window, found, index, areas, usable, x, y, width, height, active, known, owned, left, own,
    given, effect⟩ := placed_of_run_succeeds succeeded
  have decorated : found.extents.InRange := extentsInRange window found active known
  have usableLeft : usableArea w.root w.struts (w.heads.get index) = .ok usable :=
    usableArea_of_getElem? left (List.getElem?_eq_getElem index.isLt) own
  -- The far edges of the head have been looked at, so they are 32-bit numbers too.
  have headInRange : (w.heads.get index).InRange :=
    (usableArea_eq_ok_iff.mp usableLeft).1.inRange (cornersInRange _ (List.get_mem _ _))
  let moved := found.moveResize (requestIn usable found.extents x y width height)
  refine ⟨window, found, moved, index, areas, usable, x, y, width, height, active, known, ?_, owned,
    left, own, given, ?_⟩
  · rw [effect, find?_modify, known, Option.map_some]
    exact fun _ => rfl
  intro atLeft atTop atRight atBottom px py covered
  have onUsable := ManagedWindow.covers_of_covers_moveResize decorated
    (isCoordinate_corner_usableArea usableLeft headInRange) atLeft atTop atRight atBottom covered
  obtain ⟨onHead, spared⟩ := (covers_usableArea_iff usableLeft).mp onUsable
  refine ⟨onHead, ?_⟩
  intro client member strut answered
  exact (spared strut (mem_struts_of_answer member answered)).not_reserves headInRange onHead

/-- Two heads side by side, with a panel above the first one and a window between them, and a
third window whose strut cannot be read. -/
def withPanel : Workspace where
  root := ⟨0, 0, 4480, 1440⟩
  heads := [⟨0, 0, 2560, 1440⟩, ⟨2560, 0, 1920, 1080⟩]
  active := some 1
  windows :=
    [⟨1, ⟨2200, 200, 800, 600⟩, ⟨2, 2, 20, 2⟩, some "editor", none, false, false⟩,
      ⟨2, ⟨0, 0, 2560, 30⟩, .zero, none,
        some ⟨0, 0, 30, 0, .wholeEdge, .wholeEdge, ⟨0, 2559⟩, .wholeEdge⟩, false, false⟩,
      ⟨3, ⟨0, 0, 50, 1440⟩, .zero, none,
        some ⟨50, 0, 0, 0, .wholeEdge, .wholeEdge, .wholeEdge, .wholeEdge⟩, false, false⟩]
  stacking := [2, 3, 1]
  faults := ["strut:3"]

/-- The right half of the usable area. -/
def rightHalf : Placement where
  x := some (.call .div [.measure .screenWidth, .constant 2])
  y := some (.constant 0)
  width := some (.call .div [.measure .screenWidth, .constant 2])
  height := some (.measure .screenHeight)

/-- The placement next to the second window succeeds although the third one cannot be asked for
its strut. -/
theorem withPanel_stays_clear :
    (∀ head ∈ withPanel.heads, IsCoordinate head.x ∧ IsCoordinate head.y) ∧
      (∀ window found, withPanel.active = some window → withPanel.find? window = some found →
        found.extents.InRange) ∧
      (withPanel.run true (.moveResize rightHalf)).1.failure = none ∧
      withPanel.StaysClear rightHalf (withPanel.run true (.moveResize rightHalf)).2 := by
  have decorated : ∀ window found, withPanel.active = some window →
      withPanel.find? window = some found → found.extents.InRange := by
    rintro _ _ ⟨⟩ ⟨⟩
    decide
  exact ⟨by decide, decorated, rfl,
    placed_frame_stays_clear withPanel rightHalf (by decide) decorated rfl⟩

end Workspace

end WindowPlacement
