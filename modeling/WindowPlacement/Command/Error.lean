import WindowPlacement.Expression.Reader
import WindowPlacement.Placement.Dimension

/-!
# Refused arguments

The arguments of a command are checked before anything is asked of the window manager.
`ArgumentError` lists the causes for which they are refused, and `message` words them.
-/

namespace WindowPlacement

/-- Why the arguments of a command are refused. -/
inductive ArgumentError
  | notAParameter (argument : String)
  | unknownParameter (command name : String)
  | repeated (name : String)
  | badExpression (dimension : Dimension) (text : String) (cause : ReadError)
  | unknownPreset (name : String)
  | badPreset (preset : String) (dimension : Dimension) (text : String) (cause : ReadError)
  | nothingToDo
  | badPattern
  | badHeadNumber (text : String)
  | badDirection (text : String)
  | unknownState (text : String)
  deriving DecidableEq, Repr

def expressionErrorText (dimension : Dimension) (text : String) (cause : ReadError) : String :=
  "error parsing " ++ dimension.name ++ "=" ++ Text.quoted text ++ ": " ++ cause.message

def ArgumentError.message : ArgumentError → String
  | .notAParameter argument => "bad parameter: " ++ argument
  | .unknownParameter command name =>
    command ++ ": unrecognized parameter " ++ Text.quoted name
  | .repeated name => "duplicate param " ++ name
  | .badExpression dimension text cause => expressionErrorText dimension text cause
  | .unknownPreset name => "unknown preset " ++ Text.quoted name
  | .badPreset preset dimension text cause =>
    "preset " ++ Text.quoted preset ++ ": " ++ expressionErrorText dimension text cause
  | .nothingToDo => "moveresize: nothing to do"
  | .badPattern => "invalid match regexp"
  | .badHeadNumber text => "cannot parse head number: " ++ text
  | .badDirection text => "bad direction: " ++ text
  | .unknownState text => "toggle: unrecognized argument " ++ Text.quoted text

end WindowPlacement
