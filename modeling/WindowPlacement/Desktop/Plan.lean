import WindowPlacement.Desktop.Inquiry

/-!
# Planning a command

The plan of a command is the inquiry that ends with the one request the command makes, or
with none if nothing is to be done.  All questions come before the request, so a command
that is given up changes nothing.
-/

namespace WindowPlacement

namespace Desktop

variable {Failure : Type}

/-- The struts of some windows.  A window whose strut cannot be read counts as one that
reserves nothing. -/
def struts (d : Desktop Failure) : List WindowId → Inquiry Failure (List Strut)
  | [] => pure []
  | window :: rest => do
    let answer ← Inquiry.tryAsk (.strut window) (d.strut window)
    let struts ← d.struts rest
    match answer with
    | some (some strut) => pure (strut :: struts)
    | _ => pure struts

/-- The usable area of the head that a window belongs to.  The owner is found among the
heads as they are; struts are taken off all heads afterwards, if they are to be honored. -/
def usableHead (d : Desktop Failure) (honorStruts : Bool) (window : Rect) :
    Inquiry Failure Rect := do
  let heads ← Inquiry.ask .heads d.heads
  let index ← Inquiry.ofExcept ((owningHead window heads).mapError .head)
  if honorStruts then
    let root ← Inquiry.ask .root d.root
    let clients ← Inquiry.ask .clientList d.clientList
    let struts ← d.struts clients
    let areas ← Inquiry.ofExcept ((usableAreas root struts heads).mapError .overflow)
    -- There is an area for every head.
    pure (areas.getD index (heads.get index))
  else
    pure (heads.get index)

/-- Note the values of a placement that are infinite or no numbers. -/
def noteUnbounded : List (Expression × Float) → Inquiry Failure Unit
  | [] => pure ()
  | (e, value) :: rest => do
    Inquiry.note (.unbounded e value)
    noteUnbounded rest

/-- Place the active window. -/
def planMoveResize (d : Desktop Failure) (honorStruts : Bool) (placement : Placement) :
    Inquiry Failure Request := do
  Inquiry.note (.placing placement)
  let window ← Inquiry.ask .activeWindow d.activeWindow
  let frame ← Inquiry.ask (.frame window) (d.frame window)
  let head ← d.usableHead honorStruts frame
  let extents ← Inquiry.ask (.frameExtents window) (d.frameExtents window)
  noteUnbounded (placement.unboundedValues (.ofWindow frame head) Dimension.all)
  let target ← Inquiry.ofExcept ((placement.target frame head extents).mapError .arity)
  Inquiry.note (.moving window target)
  pure (.moveResize window target)

/-- The first of some windows whose title can be read, is not empty and is accepted by a
pattern. -/
def findTitle (d : Desktop Failure) (pattern : TitlePattern) :
    List WindowId → Inquiry Failure (Option (WindowId × String))
  | [] => pure none
  | window :: rest => do
    let answer ← Inquiry.tryAsk (.title window) (d.title window)
    match answer with
    | some (some title) =>
      if title ≠ "" ∧ pattern.accepts title then
        pure (some (window, title))
      else
        d.findTitle pattern rest
    | _ => d.findTitle pattern rest

/-- Activate the topmost window whose title a pattern accepts. -/
def planFocus (d : Desktop Failure) (pattern : TitlePattern) : Inquiry Failure Request := do
  let stacking ← Inquiry.ask .stackingOrder d.stackingOrder
  let found ← d.findTitle pattern stacking.reverse
  match found with
  | some (window, title) =>
    Inquiry.note (.matched title)
    pure (.activate window)
  | none => Inquiry.giveUp (.noMatch pattern.text)

/-- Switch a state of the active window on or off. -/
def planToggle (d : Desktop Failure) (state : WindowState) : Inquiry Failure Request := do
  let window ← Inquiry.ask .activeWindow d.activeWindow
  Inquiry.note (.toggling state window)
  pure (.toggle window state)

end Desktop

/-- The head next to one in the list of heads, which is taken as a ring. -/
def Direction.neighbour (direction : Direction) {count : Nat} (current : Fin count) :
    Fin count :=
  match direction with
  | .left => ⟨(current + count - 1) % count, Nat.mod_lt _ current.pos⟩
  | .right => ⟨(current + 1) % count, Nat.mod_lt _ current.pos⟩

/-- The head that a destination means to a window on another head. -/
def Destination.resolve {Failure : Type} (destination : Destination) {count : Nat}
    (current : Fin count) : Except (RunError Failure) (Fin count) :=
  match destination with
  | .head index =>
    if inRange : index < count then .ok ⟨index, inRange⟩ else .error (.badHeadIndex index count)
  | .neighbour direction => .ok (direction.neighbour current)

/-- The rectangle to request for a frame that is to have the same size as before and its
center on that of a head. -/
def centeredOn (head frame : Rect) (extents : FrameExtents) : Rect where
  x := head.x + head.width.tdiv 2 - frame.width.tdiv 2
  y := head.y + head.height.tdiv 2 - frame.height.tdiv 2
  width := frame.width - extents.horizontal
  height := frame.height - extents.vertical

namespace Desktop

variable {Failure : Type}

/-- Move the active window to the center of another head.  There is nothing to do with less
than two heads, or if the window is already there. -/
def planSwitch (d : Desktop Failure) (destination : Destination) :
    Inquiry Failure (Option Request) := do
  let heads ← Inquiry.ask .heads d.heads
  if heads.length < 2 then
    pure none
  else
    let window ← Inquiry.ask .activeWindow d.activeWindow
    let frame ← Inquiry.ask (.frame window) (d.frame window)
    let current ← Inquiry.ofExcept ((owningHead frame heads).mapError .head)
    let index ← Inquiry.ofExcept (destination.resolve current)
    if index = current then
      pure none
    else
      let extents ← Inquiry.ask (.frameExtents window) (d.frameExtents window)
      let target := centeredOn (heads[index]) frame extents
      Inquiry.note (.switching window current index)
      pure (some (.moveResize window target))

/-- The inquiry of a command on a desktop, with the request that it ends with. -/
def plan (d : Desktop Failure) (honorStruts : Bool) :
    Command → Inquiry Failure (Option Request)
  | .moveResize placement => some <$> d.planMoveResize honorStruts placement
  | .focus pattern => some <$> d.planFocus pattern
  | .toggle state => some <$> d.planToggle state
  | .switch destination => d.planSwitch destination

end Desktop

end WindowPlacement
