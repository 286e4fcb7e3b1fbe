import WindowPlacement.Command.Basic
import WindowPlacement.TitlePattern.Meaning

/-!
# Invocations

An invocation is a command as it is given: the command's name with the texts of its
arguments.  `command` checks the arguments.
-/

namespace WindowPlacement

/-- A command with its arguments as they were given. -/
inductive Invocation
  | moveResize (parameters : List String)
  | focus (parameter : String)
  | maximize
  | toggle (state : String)
  | switch (destination : String)
  deriving DecidableEq, Repr

def TitlePattern.ofArgument (argument : String) : Except ArgumentError TitlePattern :=
  match Parameter.ofString? argument with
  | none => .error (.notAParameter argument)
  | some ⟨name, value⟩ =>
    if name = "match" then
      match TitlePattern.ofString? value with
      | some pattern => .ok pattern
      | none => .error .badPattern
    else
      .error (.unknownParameter "focus" name)

/-- The command that is meant, or why its arguments are refused. -/
def Invocation.command (presets : Presets) : Invocation → Except ArgumentError Command
  | .moveResize parameters => (Placement.ofParameters presets parameters).map .moveResize
  | .focus parameter => (TitlePattern.ofArgument parameter).map .focus
  | .maximize => .ok (.toggle .maximized)
  | .toggle state => (WindowState.ofArgument state).map .toggle
  | .switch destination => (Destination.ofArgument destination).map .switch

end WindowPlacement
