import WindowPlacement.Desktop.Plan

/-!
# Workspaces

A workspace is a desktop held in memory: heads, windows with their frames and titles, the
order in which they are stacked, and which one is active.  It answers every question of a
`Desktop` and carries out every `Request`.

Any of its operations can be made to fail, for all windows or for one, by listing its name
among the faults.
-/

namespace WindowPlacement

/-- A window of a workspace. -/
structure ManagedWindow where
  id : WindowId
  frame : Rect
  extents : FrameExtents
  title : Option String
  strut : Option Strut
  maximized : Bool
  fullscreen : Bool
  deriving DecidableEq, Repr

/-- A desktop in memory.  The windows are in the order in which they appeared; `stacking`
goes from the bottom to the top, and may also list windows that are gone. -/
structure Workspace where
  root : Rect
  heads : List Rect
  active : Option WindowId
  windows : List ManagedWindow
  stacking : List WindowId
  faults : List String
  deriving DecidableEq, Repr

/-- Why an operation of a workspace fails. -/
inductive WorkspaceError
  | fault (operation : String)
  | noActiveWindow
  | noSuchWindow (window : WindowId)
  deriving DecidableEq, Repr

def WorkspaceError.message : WorkspaceError → String
  | .fault operation => operation ++ " failed"
  | .noActiveWindow => "no active window"
  | .noSuchWindow window => "no such window " ++ toString window

/-- The name of the operation that answers a question. -/
def Query.operation : Query → String
  | .root => "root"
  | .heads => "heads"
  | .activeWindow => "active_window"
  | .clientList => "client_list"
  | .stackingOrder => "client_list_stacking"
  | .frame _ => "window_rect"
  | .frameExtents _ => "frame_extents"
  | .title _ => "window_title"
  | .strut _ => "strut"

def Query.window? : Query → Option WindowId
  | .root | .heads | .activeWindow | .clientList | .stackingOrder => none
  | .frame window | .frameExtents window | .title window | .strut window => some window

/-- The name of the operation that carries out a request. -/
def Request.operation : Request → String
  | .moveResize _ _ => "move_resize"
  | .activate _ => "activate"
  | .toggle _ _ => "toggle_state"

def ManagedWindow.toggle (w : ManagedWindow) : WindowState → ManagedWindow
  | .maximized => { w with maximized := !w.maximized }
  | .fullscreen => { w with fullscreen := !w.fullscreen }

/-- The window after a request for the corner of its frame and the size of its client
area.  The decorations are added, with sums clamped to 32-bit coordinates. -/
def ManagedWindow.moveResize (w : ManagedWindow) (target : Rect) : ManagedWindow :=
  { w with
    frame :=
      ⟨target.x, target.y,
        saturate (saturate (target.width + w.extents.left) + w.extents.right),
        saturate (saturate (target.height + w.extents.top) + w.extents.bottom)⟩ }

namespace Workspace

/-- Whether an operation is made to fail, for all windows or for the one it is about. -/
def isFaulty (w : Workspace) (operation : String) (window : Option WindowId) : Bool :=
  w.faults.contains operation ||
    match window with
    | none => false
    | some window => w.faults.contains (operation ++ ":" ++ toString window)

def find? (w : Workspace) (window : WindowId) : Option ManagedWindow :=
  w.windows.find? fun candidate => candidate.id == window

/-- An answer, unless the operation is made to fail. -/
def guarded {α : Type} (w : Workspace) (query : Query) (answer : Except WorkspaceError α) :
    Except WorkspaceError α :=
  if w.isFaulty query.operation query.window? then .error (.fault query.operation) else answer

/-- Something about a window, unless there is no such window. -/
def about {α : Type} (w : Workspace) (window : WindowId) (answer : ManagedWindow → α) :
    Except WorkspaceError α :=
  match w.find? window with
  | some found => .ok (answer found)
  | none => .error (.noSuchWindow window)

/-- The answers of a workspace. -/
def desktop (w : Workspace) : Desktop WorkspaceError where
  root := w.guarded .root (.ok w.root)
  heads := w.guarded .heads (.ok w.heads)
  activeWindow := w.guarded .activeWindow <|
    match w.active with
    | some window => .ok window
    | none => .error .noActiveWindow
  clientList := w.guarded .clientList (.ok (w.windows.map ManagedWindow.id))
  stackingOrder := w.guarded .stackingOrder (.ok w.stacking)
  frame window := w.guarded (.frame window) (w.about window ManagedWindow.frame)
  frameExtents window := w.guarded (.frameExtents window) (w.about window ManagedWindow.extents)
  title window := w.guarded (.title window) (w.about window ManagedWindow.title)
  strut window := w.guarded (.strut window) (w.about window ManagedWindow.strut)

/-- Change the window of an id. -/
def modify (w : Workspace) (window : WindowId) (change : ManagedWindow → ManagedWindow) :
    Workspace :=
  { w with
    windows := w.windows.map fun candidate =>
      if candidate.id = window then change candidate else candidate }

/-- The workspace after a request that does not fail. -/
def carryOut (w : Workspace) : Request → Workspace
  | .moveResize window target => w.modify window fun found => found.moveResize target
  | .activate window =>
    { w with active := some window, stacking := w.stacking.filter (· ≠ window) ++ [window] }
  | .toggle window state => w.modify window fun found => found.toggle state

/-- Carry out a request, or say why it fails. -/
def perform (w : Workspace) (request : Request) : Except WorkspaceError Workspace :=
  if w.isFaulty request.operation (some request.window) then
    .error (.fault request.operation)
  else
    match w.find? request.window with
    | some _ => .ok (w.carryOut request)
    | none => .error (.noSuchWindow request.window)

/-- What happened when a command was run: the events up to the request, the request if one
was made, and the failure if there was one. -/
structure Report where
  events : List Event
  request : Option Request
  failure : Option (RunError WorkspaceError)

/-- Run a command on a workspace. -/
def run (w : Workspace) (honorStruts : Bool) (command : Command) : Report × Workspace :=
  let inquiry := w.desktop.plan honorStruts command
  match inquiry.result with
  | .error reason => (⟨inquiry.events, none, some reason⟩, w)
  | .ok none => (⟨inquiry.events, none, none⟩, w)
  | .ok (some request) =>
    match w.perform request with
    | .error failure => (⟨inquiry.events, some request, some (.desktop failure)⟩, w)
    | .ok after => (⟨inquiry.events, some request, none⟩, after)

end Workspace

end WindowPlacement
