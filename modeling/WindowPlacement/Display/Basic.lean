import WindowPlacement.Desktop.Basic
import WindowPlacement.Geometry.Head
import WindowPlacement.Text.Utf8

/-!
# X displays

The state of an X display as far as it can be asked for: the root window, the screens of the
Xinerama extension, and for every window its geometry and its properties.  A window manager
that follows the conventions for desktops keeps its answers in properties; `Display.desktop`
reads them.  At most four kilobytes of a property are read.
-/

namespace WindowPlacement

/-- A property of a window: its type, the width of its items in bits, and its bytes, with
the low byte of an item first. -/
structure Property where
  type : String
  width : Nat
  bytes : List UInt8
  deriving DecidableEq, Repr

/-- The properties of a window by their names. -/
abbrev Properties :=
  List (String × Property)

/-- A window of a display: its client area in the root window, and its properties. -/
structure DisplayWindow where
  area : Rect
  properties : Properties
  deriving DecidableEq, Repr

/-- What the Xinerama extension says: whether it is active, and the screens. -/
structure Xinerama where
  active : Bool
  screens : List Rect
  deriving DecidableEq, Repr

/-- An X display. -/
structure Display where
  rootId : WindowId
  rootArea : Rect
  rootProperties : Properties
  xinerama : Option Xinerama
  windows : List (WindowId × DisplayWindow)
  deriving DecidableEq, Repr

/-- Why a display does not answer. -/
inductive DisplayError
  | requestFailed
  | missingProperty (name : String) (window : WindowId)
  deriving DecidableEq, Repr

namespace Property

/-- The bytes of a number, the low one first. -/
def bytesOfItem : Nat → Nat → List UInt8
  | 0, _ => []
  | count + 1, item => UInt8.ofNat (item % 256) :: bytesOfItem count (item / 256)

def ofItems (type : String) (width : Nat) (items : List Nat) : Property :=
  ⟨type, width, items.flatMap (bytesOfItem (width / 8))⟩

/-- The number of bytes that are read of a property. -/
def readLimit : Nat :=
  4096

/-- The items of 32 bits that some bytes make up. -/
def wordsOfBytes : List UInt8 → List Nat
  | a :: b :: c :: d :: rest =>
    (a.toNat + 256 * (b.toNat + 256 * (c.toNat + 256 * d.toNat))) :: wordsOfBytes rest
  | _ => []

/-- The items of a property, if they have 32 bits. -/
def words (p : Property) : List Nat :=
  if p.width = 32 then wordsOfBytes (p.bytes.take readLimit) else []

def text (p : Property) : Option String :=
  if p.bytes.isEmpty then
    none
  else
    some (String.ofList (Text.decodeLenient (p.bytes.take readLimit)))

end Property

namespace Display

def find? (d : Display) (window : WindowId) : Option DisplayWindow :=
  if window = d.rootId then
    some ⟨d.rootArea, d.rootProperties⟩
  else
    d.windows.lookup window

def window (d : Display) (window : WindowId) : Except DisplayError DisplayWindow :=
  match d.find? window with
  | some found => .ok found
  | none => .error .requestFailed

/-- The property of a window, if it has one of that name and, unless any type will do, of
that type. -/
def property (d : Display) (window : WindowId) (name : String) (type : Option String) :
    Except DisplayError (Option Property) :=
  (d.window window).map fun found =>
    (found.properties.lookup name).filter fun property =>
      type.all fun type => property.type == type

/-- The items of 32 bits of a property.  There are none if there is no such property. -/
def words (d : Display) (window : WindowId) (name type : String) :
    Except DisplayError (List Nat) :=
  (d.property window name (some type)).map fun property => property.elim [] Property.words

def text (d : Display) (window : WindowId) (name : String) (type : Option String) :
    Except DisplayError (Option String) :=
  (d.property window name type).map fun property => property.bind Property.text

/-- The heads of a display: the screens that Xinerama reports, without mirrors, if it is
active and reports any, and else the root window. -/
def heads (d : Display) : List Rect :=
  match d.xinerama with
  | some ⟨true, first :: rest⟩ => physicalHeads (first :: rest)
  | _ => [d.rootArea]

def activeWindow (d : Display) : Except DisplayError WindowId :=
  match d.words d.rootId "_NET_ACTIVE_WINDOW" "WINDOW" with
  | .error failure => .error failure
  | .ok (window :: _) =>
    if window = 0 then
      .error (.missingProperty "_NET_ACTIVE_WINDOW" d.rootId)
    else
      .ok window
  | .ok [] => .error (.missingProperty "_NET_ACTIVE_WINDOW" d.rootId)

/-- The decorations that some numbers give.  Less than four mean that there are none. -/
def extentsOfWords : List Nat → FrameExtents
  | left :: right :: top :: bottom :: _ =>
    ⟨saturate left, saturate right, saturate top, saturate bottom⟩
  | _ => .zero

def frameExtents (d : Display) (window : WindowId) : Except DisplayError FrameExtents :=
  (d.words window "_NET_FRAME_EXTENTS" "CARDINAL").map extentsOfWords

/-- A client area with its decorations. -/
def frameOf (area : Rect) (extents : FrameExtents) : Rect where
  x := saturate (area.x - extents.left)
  y := saturate (area.y - extents.top)
  width := saturate (area.width + extents.horizontal)
  height := saturate (area.height + extents.vertical)

def frame (d : Display) (window : WindowId) : Except DisplayError Rect :=
  match d.window window, d.frameExtents window with
  | .ok found, .ok extents => .ok (frameOf found.area extents)
  | .error failure, _ | _, .error failure => .error failure

/-- The title of a window: the one in UTF-8, or else the older one. -/
def title (d : Display) (window : WindowId) : Except DisplayError (Option String) :=
  match d.text window "_NET_WM_NAME" (some "UTF8_STRING") with
  | .error failure => .error failure
  | .ok (some title) => .ok (some title)
  | .ok none => d.text window "WM_NAME" none

/-- The strut of a window: the one with spans, or else the one without. -/
def strut (d : Display) (window : WindowId) : Except DisplayError (Option Strut) :=
  match d.words window "_NET_WM_STRUT_PARTIAL" "CARDINAL" with
  | .error failure => .error failure
  | .ok values =>
    match Strut.ofPartial? values with
    | some strut => .ok (some strut)
    | none => (d.words window "_NET_WM_STRUT" "CARDINAL").map Strut.ofInsets?

/-- The answers of a display. -/
def desktop (d : Display) : Desktop DisplayError where
  root := .ok d.rootArea
  heads := .ok d.heads
  activeWindow := d.activeWindow
  clientList := d.words d.rootId "_NET_CLIENT_LIST" "WINDOW"
  stackingOrder := d.words d.rootId "_NET_CLIENT_LIST_STACKING" "WINDOW"
  frame := d.frame
  frameExtents := d.frameExtents
  title := d.title
  strut := d.strut

end Display

end WindowPlacement
