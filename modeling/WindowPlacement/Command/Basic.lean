import WindowPlacement.Command.Error
import WindowPlacement.Placement.Basic
import WindowPlacement.TitlePattern.Basic

/-!
# Commands

A command acts on the active window, except for `focus`, which makes another window the
active one.  This module turns the arguments of a command into the command, or says why
they are refused.
-/

namespace WindowPlacement

/-- A state of a window that can be switched on and off. -/
inductive WindowState
  | maximized
  | fullscreen
  deriving DecidableEq, Repr

def WindowState.name : WindowState → String
  | .maximized => "maximized"
  | .fullscreen => "fullscreen"

def WindowState.ofArgument (argument : String) : Except ArgumentError WindowState :=
  let name := Text.trimmed argument
  if name = "maximized" then
    .ok .maximized
  else if name = "fullscreen" then
    .ok .fullscreen
  else
    .error (.unknownState name)

/-- A direction in the list of heads. -/
inductive Direction
  | left
  | right
  deriving DecidableEq, Repr

def Direction.name : Direction → String
  | .left => "left"
  | .right => "right"

/-- The direction that a text names, in capital or small letters.  No letter outside ASCII
has one of the letters of these names as its small form. -/
def Direction.ofString? (text : String) : Option Direction :=
  let name := String.ofList ((Text.trim text.toList).map Char.toLower)
  if name = "left" then
    some .left
  else if name = "right" then
    some .right
  else
    none

/-- Where the active window is to be moved. -/
inductive Destination
  | head (index : Nat)
  | neighbour (direction : Direction)
  deriving DecidableEq, Repr

/-- The number of a head: decimal digits, with a plus sign allowed in front, for a number
of at most 64 bits. -/
def headNumber? (text : String) : Option Nat :=
  let digits :=
    match Text.trim text.toList with
    | '+' :: digits => digits
    | digits => digits
  if digits.isEmpty || !digits.all Char.isDigit then
    none
  else
    let number := Decimal.naturalOfDigits digits
    if number < UInt64.size then some number else none

def Destination.ofArgument (argument : String) : Except ArgumentError Destination :=
  match Parameter.ofString? argument with
  | none => .error (.notAParameter argument)
  | some ⟨name, value⟩ =>
    if name = "head" then
      match headNumber? value with
      | some index => .ok (.head index)
      | none => .error (.badHeadNumber value)
    else if name = "dir" then
      match Direction.ofString? value with
      | some direction => .ok (.neighbour direction)
      | none => .error (.badDirection value)
    else
      .error (.unknownParameter "switch" name)

/-- What can be done to a window. -/
inductive Command
  | moveResize (placement : Placement)
  | focus (pattern : TitlePattern)
  | toggle (state : WindowState)
  | switch (destination : Destination)

end WindowPlacement
