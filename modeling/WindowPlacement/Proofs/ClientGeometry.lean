import WindowPlacement.Proofs.AllOrNothing
import WindowPlacement.Proofs.InnerAreas
import WindowPlacement.Proofs.Mirrors
import WindowPlacement.Proofs.PlacedFrame
import WindowPlacement.Proofs.PropertyItems
import WindowPlacement.Proofs.SelfParameters
import WindowPlacement.Proofs.WholeNumbers

/-!
# From the client area to the frame and back

A display knows the client area of a window.  The frame is the client area with the decorations,
expressions see the frame relative to the usable area of its head, and the message that goes out
has the corner of the frame and the size of the client area, as words without a sign.  All of
these steps undo each other: a placement that keeps the frame asks for the client area.
-/

namespace WindowPlacement

section Words

/-- The number that a word of 32 bits stands for in two's complement. -/
def intOfWord (word : Nat) : Int :=
  (BitVec.ofNat 32 word).toInt

theorem intOfWord_wordOfInt {n : Int} (inRange : IsCoordinate n) :
    intOfWord (wordOfInt n) = n := by
  obtain ⟨low, high⟩ := inRange
  simp only [leastCoordinate, greatestCoordinate] at low high
  have same : BitVec.ofNat 32 (wordOfInt n) = BitVec.ofInt 32 n := by
    apply BitVec.eq_of_toNat_eq
    rw [BitVec.toNat_ofNat, BitVec.toNat_ofInt, wordOfInt]
    omega
  rw [intOfWord, same, BitVec.toInt_ofInt_eq_self (by decide) (by omega) (by omega)]

/-- The words of a message say where a window is to go, with sizes of at least one pixel. -/
theorem map_intOfWord_message (window : WindowId) {target : Rect} (x : IsCoordinate target.x)
    (y : IsCoordinate target.y) (width : IsCoordinate target.width)
    (height : IsCoordinate target.height) :
    (Request.moveResize window target).message.data.tail.map intOfWord =
      [target.x, target.y, max 1 target.width, max 1 target.height] := by
  have least_width : IsCoordinate (max target.width 1) := by
    simp only [IsCoordinate, leastCoordinate, greatestCoordinate] at width ⊢
    omega
  have least_height : IsCoordinate (max target.height 1) := by
    simp only [IsCoordinate, leastCoordinate, greatestCoordinate] at height ⊢
    omega
  simp only [Request.message, List.tail_cons, List.map_cons, List.map_nil,
    intOfWord_wordOfInt x, intOfWord_wordOfInt y, intOfWord_wordOfInt least_width,
    intOfWord_wordOfInt least_height, Int.max_comm 1]

end Words

section Geometry

/-- The corner of a rectangle has coordinates of 16 bits with a sign, and its sizes have 16 bits
without one. -/
structure Rect.IsGeometry (r : Rect) : Prop where
  x : -32768 ≤ r.x ∧ r.x < 32768
  y : -32768 ≤ r.y ∧ r.y < 32768
  width : 0 ≤ r.width ∧ r.width < 65536
  height : 0 ≤ r.height ∧ r.height < 65536

instance (r : Rect) : Decidable r.IsGeometry :=
  decidable_of_iff ((-32768 ≤ r.x ∧ r.x < 32768) ∧ (-32768 ≤ r.y ∧ r.y < 32768) ∧
      (0 ≤ r.width ∧ r.width < 65536) ∧ 0 ≤ r.height ∧ r.height < 65536)
    ⟨fun ⟨x, y, width, height⟩ => ⟨x, y, width, height⟩,
      fun ⟨x, y, width, height⟩ => ⟨x, y, width, height⟩⟩

def FrameExtents.IsThin (e : FrameExtents) : Prop :=
  ∀ side ∈ [e.left, e.right, e.top, e.bottom], 0 ≤ side ∧ side ≤ 536870912

theorem FrameExtents.isThin_iff {e : FrameExtents} :
    e.IsThin ↔ (0 ≤ e.left ∧ e.left ≤ 536870912) ∧ (0 ≤ e.right ∧ e.right ≤ 536870912) ∧
      (0 ≤ e.top ∧ e.top ≤ 536870912) ∧ 0 ≤ e.bottom ∧ e.bottom ≤ 536870912 := by
  simp [IsThin]

variable {client head area : Rect} {extents : FrameExtents}

theorem frameOf_eq (geometry : client.IsGeometry) (thin : extents.IsThin) :
    Display.frameOf client extents = ⟨client.x - extents.left, client.y - extents.top,
      client.width + extents.horizontal, client.height + extents.vertical⟩ := by
  obtain ⟨x, y, width, height⟩ := geometry
  obtain ⟨left, right, top, bottom⟩ := FrameExtents.isThin_iff.mp thin
  simp only [Display.frameOf, FrameExtents.horizontal, FrameExtents.vertical, saturate,
    leastCoordinate, greatestCoordinate, Rect.mk.injEq]
  omega

/-- The corner of an area lies on a head, or on its right or bottom edge. -/
def Rect.StartsOn (area head : Rect) : Prop :=
  (head.x ≤ area.x ∧ area.x ≤ head.right) ∧ head.y ≤ area.y ∧ area.y ≤ head.bottom

theorem usableArea_startsOn {root : Rect} {struts : List Strut} (geometry : head.IsGeometry)
    (left : usableArea root struts head = .ok area) : area.StartsOn head := by
  obtain ⟨-, rfl⟩ := Edges.toRect_eq_ok_iff.mp (usableArea_eq_ok_iff.mp left).2
  have inward := Edges.foldl_reserve_inward head root struts (.ofRect head)
  obtain ⟨-, -, width, height⟩ := geometry
  simp only [Rect.StartsOn, remainder, Edges.withCornerOn, Edges.ofRect, Rect.right,
    Rect.bottom] at *
  omega

theorem Rect.IsGeometry.inRange (geometry : head.IsGeometry) : head.InRange := by
  obtain ⟨x, y, width, height⟩ := geometry
  constructor
  all_goals
    simp only [IsCoordinate, Rect.right, Rect.bottom, leastCoordinate, greatestCoordinate]
    omega

theorem Rect.IsGeometry.isSized (geometry : head.IsGeometry) : head.IsSized := by
  have inRange := geometry.inRange
  obtain ⟨-, -, width, height⟩ := geometry
  refine ⟨⟨inRange.left, inRange.top⟩, ?_, ?_⟩
  all_goals
    simp only [greatestCoordinate]
    omega

theorem isCoordinate_current (geometry : client.IsGeometry) (thin : extents.IsThin)
    (headGeometry : head.IsGeometry) (starts : area.StartsOn head) (dimension : Dimension) :
    IsCoordinate
      ((Surroundings.ofWindow (Display.frameOf client extents) area).current dimension) := by
  rw [frameOf_eq geometry thin]
  obtain ⟨x, y, width, height⟩ := geometry
  obtain ⟨left, right, top, bottom⟩ := FrameExtents.isThin_iff.mp thin
  obtain ⟨headX, headY, headWidth, headHeight⟩ := headGeometry
  simp only [Rect.StartsOn, Rect.right, Rect.bottom] at starts
  cases dimension <;>
    simp only [Surroundings.ofWindow, Surroundings.current, FrameExtents.horizontal,
      FrameExtents.vertical, IsCoordinate, leastCoordinate, greatestCoordinate] <;>
    omega

/-- The request for a frame that is where it is has the corner of the frame and the size of the
client area. -/
theorem requestIn_current (geometry : client.IsGeometry) (thin : extents.IsThin) :
    let s := Surroundings.ofWindow (Display.frameOf client extents) area
    requestIn area extents (s.current .x) (s.current .y) (s.current .width)
        (s.current .height) =
      ⟨client.x - extents.left, client.y - extents.top, client.width, client.height⟩ := by
  rw [frameOf_eq geometry thin]
  obtain ⟨x, y, width, height⟩ := geometry
  obtain ⟨left, right, top, bottom⟩ := FrameExtents.isThin_iff.mp thin
  simp only [requestIn, Surroundings.ofWindow, Surroundings.current, saturate, leastCoordinate,
    greatestCoordinate, Rect.mk.injEq]
  omega

end Geometry

section Declarations

open Property

/-- The decorations that a window declares: those of the first four numbers of a property.
Without four such numbers there are none. -/
inductive Properties.Declare (properties : Properties) : FrameExtents → Prop
  | missing (absent : properties.lookup "_NET_FRAME_EXTENTS" = none) : Declare properties .zero
  | unusable (p : Property) (present : properties.lookup "_NET_FRAME_EXTENTS" = some p)
      (short : p.type ≠ "CARDINAL" ∨ p.width ≠ 32 ∨ p.bytes.length < 16) :
      Declare properties .zero
  | numbers (left right top bottom : Nat) (rest : List UInt8)
      (present : properties.lookup "_NET_FRAME_EXTENTS" =
        some ⟨"CARDINAL", 32, [left, right, top, bottom].flatMap (bytesOfItem 4) ++ rest⟩)
      (thin : ∀ side ∈ [left, right, top, bottom], side ≤ 536870912) :
      Declare properties ⟨left, right, top, bottom⟩

variable {properties : Properties} {extents : FrameExtents}

theorem Properties.Declare.isThin (declared : properties.Declare extents) : extents.IsThin := by
  rw [FrameExtents.isThin_iff]
  cases declared with
  | missing absent => decide
  | unusable p present short => decide
  | numbers left right top bottom rest present thin =>
    simp only [List.forall_mem_cons] at thin
    dsimp only
    omega

theorem extentsOfWords_of_length_lt {items : List Nat} (short : items.length < 4) :
    Display.extentsOfWords items = .zero := by
  rcases items with _ | ⟨a, _ | ⟨b, _ | ⟨c, _ | ⟨d, rest⟩⟩⟩⟩
  case cons.cons.cons.cons =>
    simp only [List.length_cons] at short
    omega
  all_goals rfl

theorem words_numbers {left right top bottom : Nat} {rest : List UInt8}
    (bounded : ∀ side ∈ [left, right, top, bottom], side < 4294967296) :
    (Property.mk "CARDINAL" 32
      ([left, right, top, bottom].flatMap (bytesOfItem 4) ++ rest)).words =
        left :: right :: top :: bottom :: (wordsOfBytes rest).take 1020 := by
  rw [words_eq_take rfl]
  dsimp only
  rw [wordsOfBytes_flatMap_append bounded]
  rfl

theorem frameExtents_of_declare {d : Display} {window : WindowId} {client : DisplayWindow}
    (known : d.find? window = some client) (declared : client.properties.Declare extents) :
    d.frameExtents window = .ok extents := by
  cases declared with
  | missing absent =>
    rw [Display.frameExtents, Display.words_of_missing known absent]
    rfl
  | unusable p present short =>
    rw [Display.frameExtents, Display.words_of_present known present]
    refine congrArg Except.ok (extentsOfWords_of_length_lt ?_)
    split
    · rename_i cardinal
      rcases short with other | narrow | short
      · exact absurd cardinal other
      · simp [words, narrow]
      · have few := length_words_le p
        omega
    · exact Nat.succ_pos 3
  | numbers left right top bottom rest present thin =>
    rw [Display.frameExtents, Display.words_of_present known present, if_pos rfl,
      words_numbers fun side member => (thin side member).trans_lt (by decide)]
    simp only [List.forall_mem_cons] at thin
    simp only [Except.map, Display.extentsOfWords, saturate, leastCoordinate,
      greatestCoordinate, Except.ok.injEq, FrameExtents.mk.injEq]
    omega

end Declarations

namespace Display

/-- The rectangles of a display have numbers of 16 bits. -/
structure HasGeometry (d : Display) : Prop where
  root : d.rootArea.IsGeometry
  screens : ∀ xinerama ∈ d.xinerama, ∀ screen ∈ xinerama.screens, screen.IsGeometry
  windows : ∀ entry ∈ d.windows, entry.2.area.IsGeometry

variable {d : Display}

theorem HasGeometry.of_mem_heads (geometry : d.HasGeometry) {head : Rect}
    (member : head ∈ d.heads) : head.IsGeometry := by
  unfold heads at member
  split at member
  · rename_i first rest known
    have screen : head ∈ first :: rest := (physicalHeads_sublist _).subset member
    exact geometry.screens _ known head screen
  · rw [List.mem_singleton.mp member]
    exact geometry.root

theorem HasGeometry.of_find? (geometry : d.HasGeometry) {window : WindowId}
    {client : DisplayWindow} (known : d.find? window = some client) :
    client.area.IsGeometry := by
  unfold find? at known
  split at known
  · rw [← Option.some.inj known]
    exact geometry.root
  · obtain ⟨before, after, split, -⟩ := List.lookup_eq_some_iff.mp known
    exact geometry.windows (window, client) (by rw [split]; simp)

theorem HasGeometry.startsOn_of_usableHead (geometry : d.HasGeometry) {honorStruts : Bool}
    {frame area : Rect} (found : (d.desktop.usableHead honorStruts frame).result = .ok area) :
    ∃ head ∈ d.heads, area.StartsOn head := by
  obtain ⟨heads, index, answered, -, left⟩ := Desktop.result_usableHead_eq_ok_iff.mp found
  obtain rfl : d.heads = heads := Except.ok.inj answered
  have headGeometry := geometry.of_mem_heads (List.get_mem d.heads index)
  refine ⟨d.heads.get index, List.get_mem d.heads index, ?_⟩
  cases honorStruts with
  | false =>
    have wide := headGeometry.width.1
    have tall := headGeometry.height.1
    rw [if_neg Bool.false_ne_true] at left
    simp only [left, Rect.StartsOn, Rect.right, Rect.bottom]
    omega
  | true =>
    obtain ⟨root, clients, areas, -, -, left, own⟩ := left
    exact usableArea_startsOn headGeometry
      (usableArea_of_getElem? left (List.getElem?_eq_getElem index.isLt) own)

/-- No strut of a window of the client list reaches too far on any of the heads. -/
def StrutsWithinReach (d : Display) : Prop :=
  ∃ clients, d.desktop.clientList = .ok clients ∧
    ∀ head ∈ d.heads, WithinReach d.rootArea (clients.filterMap d.desktop.strut?) head

/-- A window has a usable head exactly if it is on a head and the struts, if they are to be honored,
do not reach too far. -/
theorem HasGeometry.exists_usableHead_iff (geometry : d.HasGeometry) {honorStruts : Bool}
    {frame : Rect} :
    (∃ area, (d.desktop.usableHead honorStruts frame).result = .ok area) ↔
      (∃ index, owningHead frame d.heads = .ok index) ∧
        (honorStruts = true → d.StrutsWithinReach) := by
  have answers_iff (struts : List Strut) :
      (∃ areas, usableAreas d.rootArea struts d.heads = .ok areas) ↔
        ∀ head ∈ d.heads, WithinReach d.rootArea struts head :=
    exists_usableAreas_iff_of_inRange geometry.root.inRange
      (fun _ member => (geometry.of_mem_heads member).inRange)
      fun _ member => (geometry.of_mem_heads member).isSized
  constructor
  · rintro ⟨area, found⟩
    obtain ⟨heads, index, answered, owned, left⟩ := Desktop.result_usableHead_eq_ok_iff.mp found
    obtain rfl : d.heads = heads := Except.ok.inj answered
    refine ⟨⟨index, owned⟩, ?_⟩
    rintro rfl
    obtain ⟨root, clients, areas, rooted, listed, left, -⟩ := left
    obtain rfl : d.rootArea = root := Except.ok.inj rooted
    exact ⟨clients, listed, (answers_iff _).mp ⟨areas, left⟩⟩
  · rintro ⟨⟨index, owned⟩, within⟩
    cases honorStruts with
    | false => exact ⟨_, Desktop.result_usableHead_eq_ok_iff.mpr ⟨d.heads, index, rfl, owned, rfl⟩⟩
    | true =>
      obtain ⟨clients, listed, near⟩ := within rfl
      obtain ⟨areas, left⟩ := (answers_iff _).mpr near
      exact ⟨_, Desktop.result_usableHead_eq_ok_iff.mpr ⟨d.heads, index, rfl, owned, d.rootArea,
        clients, areas, rfl, listed, left, getElem?_eq_some_getD_usableAreas left index⟩⟩

end Display

namespace Placement

theorem valueOf_of_prescribes {p : Placement} {s : Surroundings} {dimension : Dimension} {n : Int}
    (prescribed : p.Prescribes s dimension n) : p.valueOf s dimension = .ok n := by
  rw [Prescribes] at prescribed
  rw [valueOf]
  cases chosen : p.get dimension with
  | none =>
    rw [chosen] at prescribed
    exact congrArg Except.ok prescribed.symm
  | some e =>
    rw [chosen] at prescribed
    obtain ⟨value, evaluated, rfl⟩ := prescribed
    simp only [evaluated, coordinateOf_eq_truncated]

/-- A placement gives to every dimension the value that it has. -/
def Restates (p : Placement) (s : Surroundings) : Prop :=
  ∀ dimension, p.Prescribes s dimension (s.current dimension)

theorem restates_keeping {s : Surroundings}
    (inRange : ∀ dimension, IsCoordinate (s.current dimension)) (dimensions : List Dimension) :
    (Placement.empty.keeping dimensions).Restates s := by
  intro dimension
  rw [Prescribes, get_keeping]
  by_cases selected : dimension ∈ dimensions
  · rw [if_pos selected]
    refine ⟨Float.ofInt (s.current dimension), ?_, ?_⟩
    · rw [Expression.eval, s.value_measure]
    · rw [← coordinateOf_eq_truncated, coordinateOf_ofInt (inRange dimension)]
  · rw [if_neg selected, Placement.empty, Dimensions.get_replicate]

end Placement

/-- The plan for a placement that keeps the frame of the active window asks for the client area
at the corner of the frame. -/
theorem Display.result_planMoveResize_of_restates (d : Display) {honorStruts : Bool}
    {window : WindowId} {client : DisplayWindow} {extents : FrameExtents} {area : Rect}
    {placement : Placement} (geometry : d.HasGeometry) (active : d.activeWindow = .ok window)
    (known : d.find? window = some client) (declared : client.properties.Declare extents)
    (headed : (d.desktop.usableHead honorStruts
      (Display.frameOf client.area extents)).result = .ok area)
    (restates : placement.Restates (.ofWindow (Display.frameOf client.area extents) area)) :
    (d.desktop.planMoveResize honorStruts placement).result =
      .ok (.moveResize window ⟨client.area.x - extents.left, client.area.y - extents.top,
        client.area.width, client.area.height⟩) := by
  have decorated := frameExtents_of_declare known declared
  have framed : d.frame window = .ok (Display.frameOf client.area extents) := by
    simp only [Display.frame, Display.window, known, decorated]
  refine Desktop.result_planMoveResize_eq_ok_iff.mpr
    ⟨window, _, area, extents, _, active, framed, headed, decorated, ?_, rfl⟩
  refine Placement.target_eq_ok_iff.mpr ⟨_, _, _, _, ?_,
    (requestIn_current (geometry.of_find? known) declared.isThin).symm⟩
  exact ⟨Placement.valueOf_of_prescribes (restates .x),
    Placement.valueOf_of_prescribes (restates .y),
    Placement.valueOf_of_prescribes (restates .width),
    Placement.valueOf_of_prescribes (restates .height)⟩

namespace Environment

variable {e : Environment} {d : Display} {window : WindowId} {client : DisplayWindow}
  {extents : FrameExtents}

/-- A run sends one message.  It asks for the corner of a decorated client area and for the size
of the client area, of which at least one pixel is left. -/
def AsksFor (e : Environment) (words : List String) (window : WindowId) (client : Rect)
    (extents : FrameExtents) : Prop :=
  ∃ message, e.run words = .done (some message) ∧
    message.window = window ∧ message.type = "_NET_MOVERESIZE_WINDOW" ∧
    message.data.tail.map intOfWord =
      [client.x - extents.left, client.y - extents.top, max 1 client.width, max 1 client.height]

theorem asksFor_of_restates {words : List String} {config : Config} {placement : Placement}
    {area : Rect} (connected : e.display = some d) (geometry : d.HasGeometry)
    (active : d.activeWindow = .ok window) (known : d.find? window = some client)
    (declared : client.properties.Declare extents)
    (meant : e.Means words config (.moveResize placement))
    (headed : (d.desktop.usableHead config.honorStruts
      (Display.frameOf client.area extents)).result = .ok area)
    (restates : placement.Restates
      (.ofWindow (Display.frameOf client.area extents) area)) :
    e.AsksFor words window client.area extents := by
  have planned := d.result_planMoveResize_of_restates geometry active known declared headed restates
  have ran := run_of_plan_ok connected meant
    (Inquiry.result_map_eq_ok_iff.mpr ⟨_, planned, rfl⟩)
  refine ⟨_, ran, rfl, rfl, ?_⟩
  obtain ⟨x, y, width, height⟩ := geometry.of_find? known
  obtain ⟨left, -, top, -⟩ := FrameExtents.isThin_iff.mp declared.isThin
  apply map_intOfWord_message
  all_goals
    simp only [IsCoordinate, leastCoordinate, greatestCoordinate]
    omega

/-- Command lines that keep the frame of the active window where it is ask for what is there,
provided that the head of the window has a usable area, which is so exactly if the window is on a
head and no strut that is to be honored reaches too far.  Any selection of the parameters `x=x`,
`y=y`, `w=w` and `h=h` keeps the frame, and so does any placement whose values are those that the
frame has in the area. -/
structure KeepsInPlace (e : Environment) (d : Display) (window : WindowId)
    (client : DisplayWindow) (extents : FrameExtents) : Prop where
  resolves_iff : ∀ honorStruts,
    (∃ area, (d.desktop.usableHead honorStruts
        (Display.frameOf client.area extents)).result = .ok area) ↔
      (∃ index, owningHead (Display.frameOf client.area extents) d.heads = .ok index) ∧
        (honorStruts = true → d.StrutsWithinReach)
  parameters : ∀ config area, e.loadConfig none = .ok config →
    (d.desktop.usableHead config.honorStruts
        (Display.frameOf client.area extents)).result = .ok area →
      ∀ dimensions : List Dimension, dimensions ≠ [] → dimensions.Nodup →
        e.AsksFor ("moveresize" :: dimensions.map Dimension.selfParameter) window client.area
          extents
  placements : ∀ words config placement area, e.Means words config (.moveResize placement) →
    (d.desktop.usableHead config.honorStruts
        (Display.frameOf client.area extents)).result = .ok area →
      placement.Restates (.ofWindow (Display.frameOf client.area extents) area) →
        e.AsksFor words window client.area extents

/-- The steps from the client area of a window to a message undo each other. -/
theorem keeps_in_place (e : Environment) (d : Display) (connected : e.display = some d)
    (geometry : d.HasGeometry) (active : d.activeWindow = .ok window)
    (known : d.find? window = some client) (declared : client.properties.Declare extents) :
    e.KeepsInPlace d window client extents where
  resolves_iff _ := geometry.exists_usableHead_iff
  parameters config area loaded headed dimensions selected distinct := by
    obtain ⟨head, member, starts⟩ := geometry.startsOn_of_usableHead headed
    have meant : e.Means ("moveresize" :: dimensions.map Dimension.selfParameter) config
        (.moveResize (Placement.empty.keeping dimensions)) := by
      refine ⟨_, CommandLine.read_selfParameters dimensions, loaded, ?_⟩
      rw [Invocation.command,
        Placement.ofParameters_selfParameters config.presets selected distinct]
      rfl
    refine asksFor_of_restates connected geometry active known declared meant headed ?_
    exact Placement.restates_keeping (isCoordinate_current (geometry.of_find? known)
      declared.isThin (geometry.of_mem_heads member) starts) dimensions
  placements words config placement area meant headed :=
    asksFor_of_restates connected geometry active known declared meant headed

/-- Two screens with a panel above the first one, and a decorated window across its left edge. -/
def acrossEdge : Display where
  rootId := 80
  rootArea := ⟨0, 0, 3200, 1200⟩
  rootProperties :=
    [("_NET_ACTIVE_WINDOW", .ofItems "WINDOW" 32 [7]),
      ("_NET_CLIENT_LIST", .ofItems "WINDOW" 32 [9, 7])]
  xinerama := some ⟨true, [⟨0, 0, 1920, 1200⟩, ⟨1920, 0, 1280, 1024⟩]⟩
  windows :=
    [(7, ⟨⟨-100, 40, 640, 480⟩,
        [("_NET_FRAME_EXTENTS", .ofItems "CARDINAL" 32 [5, 5, 22, 5, 0])]⟩),
      (9, ⟨⟨0, 0, 1920, 30⟩,
        [("_NET_WM_STRUT", .ofItems "CARDINAL" 32 [0, 0, 30, 0])]⟩)]

/-- The panel leaves the first head from row 30 on, and there the window is asked for as it is. -/
theorem acrossEdge_keeps_in_place :
    let e : Environment := ⟨fun _ => none, none, some acrossEdge⟩
    let client : DisplayWindow :=
      ⟨⟨-100, 40, 640, 480⟩, [("_NET_FRAME_EXTENTS", .ofItems "CARDINAL" 32 [5, 5, 22, 5, 0])]⟩
    acrossEdge.HasGeometry ∧ e.KeepsInPlace acrossEdge 7 client ⟨5, 5, 22, 5⟩ ∧
      (acrossEdge.desktop.usableHead true (Display.frameOf client.area ⟨5, 5, 22, 5⟩)).result =
        .ok ⟨0, 30, 1920, 1170⟩ ∧
      e.AsksFor ["moveresize", "x=x", "h=h"] 7 client.area ⟨5, 5, 22, 5⟩ := by
  intro e client
  have geometry : acrossEdge.HasGeometry := by
    refine ⟨by decide, ?_, by decide⟩
    rintro _ ⟨⟩
    decide
  have declared : client.properties.Declare ⟨5, 5, 22, 5⟩ :=
    .numbers 5 5 22 5 [0, 0, 0, 0] rfl (by decide)
  have keeps : e.KeepsInPlace acrossEdge 7 client ⟨5, 5, 22, 5⟩ :=
    keeps_in_place e acrossEdge rfl geometry rfl rfl declared
  have headed : (acrossEdge.desktop.usableHead true
      (Display.frameOf client.area ⟨5, 5, 22, 5⟩)).result = .ok ⟨0, 30, 1920, 1170⟩ := rfl
  exact ⟨geometry, keeps, headed,
    keeps.parameters .default _ rfl headed [.x, .height] (by decide) (by decide)⟩

end Environment

end WindowPlacement
