import WindowPlacement.Display.Basic
import WindowPlacement.Json.Access
import WindowPlacement.Json.Reading

/-!
# Snapshots of displays

A snapshot is a JSON value with the state of a display: the size of the root window, the
screens of the Xinerama extension, the properties of the root window, and all windows with
their geometry and properties.  A property has its items as numbers, as text or as bytes in
hexadecimal digits.
-/

namespace WindowPlacement

/-- The rectangle that four numbers give. -/
def Rect.ofJson? (value : JsonValue) : Option Rect :=
  match value.items? JsonValue.integer? with
  | some [x, y, width, height] => some ⟨x, y, width, height⟩
  | _ => none

namespace Property

/-- The bytes that pairs of hexadecimal digits spell. -/
def bytesOfHex? : List Char → Option (List UInt8)
  | [] => some []
  | [_] => none
  | high :: low :: rest =>
    match JsonValue.hexDigit? high, JsonValue.hexDigit? low, bytesOfHex? rest with
    | some high, some low, some bytes => some (UInt8.ofNat (16 * high + low) :: bytes)
    | _, _, _ => none

/-- The property that a value describes. -/
def ofJson? (value : JsonValue) : Option Property := do
  let type ← (← value.get? "type").content?
  let width ← (← value.get? "format").natural?
  match value.get? "values", value.get? "text", value.get? "hex" with
  | some items, _, _ => return .ofItems type width (← items.items? JsonValue.natural?)
  | _, some text, _ => return ⟨type, width, (← text.content?).toUTF8.toList⟩
  | _, _, some hex => return ⟨type, width, ← bytesOfHex? (← hex.content?).toList⟩
  | _, _, _ => none

end Property

/-- The properties that the members of an object describe. -/
def Properties.ofJson? (value : JsonValue) : Option Properties :=
  value.members? fun name property => (Property.ofJson? property).map (name, ·)

def DisplayWindow.ofJson? (value : JsonValue) : Option DisplayWindow := do
  let area ← Rect.ofJson? (← value.get? "geom")
  let properties ← Properties.ofJson? (← value.get? "props")
  return ⟨area, properties⟩

/-- What a value says about Xinerama: null stands for a display without it. -/
def Xinerama.ofJson? (value : JsonValue) : Option (Option Xinerama) :=
  match value with
  | .null => some none
  | value => do
    let active ← (← value.get? "active").boolean?
    let screens ← (← value.get? "screens").items? Rect.ofJson?
    return some ⟨active, screens⟩

/-- The display that a snapshot describes.  Its root window has the number 80. -/
def Display.ofJson? (value : JsonValue) : Option Display := do
  let [width, height] ← (← value.get? "size").items? JsonValue.integer? | none
  let properties ← Properties.ofJson? (← value.get? "root_props")
  let xinerama ← Xinerama.ofJson? (← value.get? "xinerama")
  let windows ← (← value.get? "windows").members? fun name window => do
    return (← JsonValue.naturalOfSpelling? name.toList, ← DisplayWindow.ofJson? window)
  return ⟨80, ⟨0, 0, width, height⟩, properties, xinerama, windows⟩

end WindowPlacement
