import WindowPlacement.Proofs.Framing
import WindowPlacement.Proofs.ReservedSpace
import WindowPlacement.Proofs.Truncation

/-!
# Where a placement puts the frame

The request for a placement mixes three spaces: expressions see the frame relative to the
usable area of its head, the corner is asked for in the root window, and the size is asked for
without the decorations.  All of this cancels.  The frame that comes of a placement has the
values of the placement relative to the usable area, and a dimension that the placement leaves
out keeps its value in the root window.
-/

namespace WindowPlacement

def Rect.get (r : Rect) : Dimension → Int
  | .x => r.x
  | .y => r.y
  | .width => r.width
  | .height => r.height

namespace Placement

/-- What a placement says about one dimension: the value of the expression for it, truncated,
or the current value if there is none. -/
def Prescribes (p : Placement) (s : Surroundings) (dimension : Dimension) (n : Int) : Prop :=
  match p.get dimension with
  | none => n = s.current dimension
  | some e => ∃ value, e.eval s = .ok value ∧ n = truncated value.toModel.unpack

theorem prescribes_of_valueOf {p : Placement} {s : Surroundings} {dimension : Dimension} {n : Int}
    (given : p.valueOf s dimension = .ok n) : p.Prescribes s dimension n := by
  rw [valueOf] at given
  rw [Prescribes]
  cases chosen : p.get dimension with
  | none =>
    rw [chosen] at given
    exact (Except.ok.inj given).symm
  | some e =>
    rw [chosen] at given
    dsimp only at given ⊢
    cases evaluated : e.eval s with
    | error failure => simp [evaluated] at given
    | ok value =>
      rw [evaluated] at given
      exact ⟨value, rfl, by rw [← coordinateOf_eq_truncated, Except.ok.inj given]⟩

theorem Gives.prescribes {p : Placement} {s : Surroundings} {x y width height : Int}
    (given : p.Gives s x y width height) (dimension : Dimension) :
    p.Prescribes s dimension ((⟨x, y, width, height⟩ : Dimensions Int).get dimension) := by
  cases dimension
  · exact prescribes_of_valueOf given.x
  · exact prescribes_of_valueOf given.y
  · exact prescribes_of_valueOf given.width
  · exact prescribes_of_valueOf given.height

end Placement

/-- The frame with some values relative to an area. -/
def frameIn (area : Rect) (values : Dimensions Int) : Rect :=
  ⟨area.x + values.x, area.y + values.y, values.width, values.height⟩

/-- The numbers that come up when a frame is asked for relative to an area are 32-bit
coordinates. -/
structure SumsFit (area : Rect) (extents : FrameExtents) (values : Dimensions Int) : Prop where
  x : IsCoordinate (area.x + values.x)
  y : IsCoordinate (area.y + values.y)
  size : extents.FitsIn values.width values.height

/-- The request for a frame relative to an area gives a window this frame. -/
theorem ManagedWindow.moveResize_requestIn (found : ManagedWindow) {area : Rect}
    {values : Dimensions Int} (decorated : found.extents.Nonneg)
    (fits : SumsFit area found.extents values) :
    found.moveResize
        (requestIn area found.extents values.x values.y values.width values.height) =
      { found with frame := frameIn area values } := by
  have corner_x : saturate (values.x + area.x) = area.x + values.x := by
    rw [Int.add_comm, saturate_eq_self fits.x.1 fits.x.2]
  have corner_y : saturate (values.y + area.y) = area.y + values.y := by
    rw [Int.add_comm, saturate_eq_self fits.y.1 fits.y.2]
  have width := saturate_eq_self fits.size.clientWidth.1 fits.size.clientWidth.2
  have height := saturate_eq_self fits.size.clientHeight.1 fits.size.clientHeight.2
  rw [requestIn, corner_x, corner_y, width, height, found.moveResize_eq decorated fits.size]
  rfl

theorem get_frameIn_of_unset {p : Placement} {frame area : Rect} {values : Dimensions Int}
    {dimension : Dimension}
    (prescribed : p.Prescribes (.ofWindow frame area) dimension (values.get dimension))
    (unset : p.get dimension = none) : (frameIn area values).get dimension = frame.get dimension := by
  rw [Placement.Prescribes, unset] at prescribed
  cases dimension <;>
    simp only [Dimensions.get, Surroundings.current, Surroundings.ofWindow] at prescribed <;>
    simp only [frameIn, Rect.get, prescribed]
  all_goals omega

namespace Workspace

/-- What a placement that succeeds makes of a workspace: the active window has the frame that
is prescribed relative to the usable area of the head it was on, and all else is as before. -/
def FrameFollows (w : Workspace) (honorStruts : Bool) (placement : Placement)
    (after : Workspace) : Prop :=
  ∃ window found index areas area, ∃ values : Dimensions Int,
    w.active = some window ∧ w.find? window = some found ∧
    owningHead found.frame w.heads = .ok index ∧
    w.areas honorStruts = .ok areas ∧ areas[index.val]? = some area ∧
    (∀ dimension,
      placement.Prescribes (.ofWindow found.frame area) dimension (values.get dimension)) ∧
    (SumsFit area found.extents values →
      w.Reframed window (frameIn area values) after ∧
      ∀ dimension, placement.get dimension = none →
        (frameIn area values).get dimension = found.frame.get dimension)

/-- A placement that succeeds puts the frame of the active window exactly where it says, and
changes nothing else. -/
theorem placed_frame_follows (w : Workspace) (honorStruts : Bool) (placement : Placement)
    (decorated : ∀ window ∈ w.windows, window.extents.Nonneg)
    (succeeded : (w.run honorStruts (.moveResize placement)).1.failure = none) :
    w.FrameFollows honorStruts placement (w.run honorStruts (.moveResize placement)).2 := by
  obtain ⟨window, found, index, areas, area, x, y, width, height, active, known, owned, left, own,
    given, effect⟩ := placed_of_run_succeeds succeeded
  have prescribed := given.prescribes
  refine ⟨window, found, index, areas, area, ⟨x, y, width, height⟩, active, known, owned, left, own,
    prescribed, ?_⟩
  intro fits
  have nonneg : found.extents.Nonneg := decorated found (List.mem_of_find?_eq_some known)
  have framed := found.moveResize_requestIn nonneg fits
  rw [effect]
  refine ⟨reframed_modify known framed, ?_⟩
  intro dimension unset
  exact get_frameIn_of_unset (prescribed dimension) unset

/-- In the middle across, and a seventh of the usable height. -/
def centeredBand : Placement where
  x := some (.call .div [.call .sub [.measure .screenWidth, .measure .width], .constant 2])
  y := none
  width := none
  height := some (.call .div [.measure .screenHeight, .constant 7])

/-- The center of the editor is on the second head, so that is where it is centered; the
seventh part of 1080 rows is truncated. -/
theorem withPanel_frame_follows :
    (∀ window ∈ withPanel.windows, window.extents.Nonneg) ∧
      (withPanel.run true (.moveResize centeredBand)).1.failure = none ∧
      withPanel.FrameFollows true centeredBand
        (withPanel.run true (.moveResize centeredBand)).2 ∧
      ((withPanel.run true (.moveResize centeredBand)).2.find? 1).map ManagedWindow.frame =
        some ⟨3120, 200, 800, 154⟩ :=
  ⟨by decide, rfl, placed_frame_follows withPanel true centeredBand (by decide) rfl, rfl⟩

end Workspace

end WindowPlacement
