import WindowPlacement.Display.Basic
import WindowPlacement.Text.Quoted

/-!
# Client messages

A request to the window manager is a message about a window that is sent to the root window.
It has a type and five words of 32 bits.
-/

namespace WindowPlacement

/-- A message about a window. -/
structure ClientMessage where
  window : WindowId
  type : String
  data : List Nat
  deriving DecidableEq, Repr

/-- The word of 32 bits that stands for a number, negative ones in two's complement. -/
def wordOfInt (n : Int) : Nat :=
  (n % 4294967296).toNat

/-- The number that the display gives to the name of each state. -/
def WindowState.atoms : WindowState → Nat × Nat
  | .maximized => (310, 311)
  | .fullscreen => (312, 0)

/-- The first word of a request to move and resize a window: the north-west corner is meant,
all four values count, and the request comes from the user. -/
def moveResizeFlags : Nat :=
  1 + (1 <<< 8) + (1 <<< 9) + (1 <<< 10) + (1 <<< 11) + (2 <<< 12)

/-- The message for a request.  A size is at least one pixel. -/
def Request.message : Request → ClientMessage
  | .moveResize window target =>
    ⟨window, "_NET_MOVERESIZE_WINDOW",
      [moveResizeFlags, wordOfInt target.x, wordOfInt target.y,
        wordOfInt (max target.width 1), wordOfInt (max target.height 1)]⟩
  | .activate window => ⟨window, "_NET_ACTIVE_WINDOW", [2, 0, 0, 0, 0]⟩
  | .toggle window state => ⟨window, "_NET_WM_STATE", [2, state.atoms.1, state.atoms.2, 2, 0]⟩

def DisplayError.message : DisplayError → String
  | .requestFailed => "X request failed"
  | .missingProperty name window =>
    "window 0x" ++ String.ofList (Text.hexadecimal window) ++ " has no usable " ++ name ++
      " property"

end WindowPlacement
