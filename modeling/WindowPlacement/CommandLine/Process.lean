import WindowPlacement.CommandLine.Reading
import WindowPlacement.Config.Reading
import WindowPlacement.Desktop.Plan
import WindowPlacement.Display.Message
import WindowPlacement.Text.Plain

/-!
# Running a command line

A run reads the command line, loads the configuration, checks the arguments of the command,
connects to the display and carries the command out, in this order.  The first of these that
fails ends the run.  Since a command asks all its questions before its request, a run that
fails has sent nothing, and neither has one that crashes.
-/

namespace WindowPlacement

/-- What a run finds around it: the files it can read, the text of the configuration file in
the default place, if there is one, and the display, if it can be connected to. -/
structure Environment where
  fileText : String → Option String
  defaultConfig : Option String
  display : Option Display

def pathBelow (directory name : String) : String :=
  if directory = "" ∨ directory.toList.getLast? = some '/' then
    directory ++ name
  else
    directory ++ "/" ++ name

/-- The path of the configuration file in the default place: below the directory for
configurations, if one is set, and else below the home directory. -/
def defaultConfigPath (configHome home : Option String) : String :=
  pathBelow (configHome.getD (home.getD "/tmp" ++ "/.config")) "xwinctl/config.json"

/-- Why a run fails. -/
inductive Failure
  | config (failure : ConfigError)
  | argument (refusal : ArgumentError)
  | noConnection
  | command (reason : RunError DisplayError)
  deriving DecidableEq, Repr

def Failure.message : Failure → String
  | .config failure => failure.message
  | .argument refusal => refusal.message
  | .noConnection => "window manager error: cannot connect to X server"
  | .command reason => reason.message DisplayError.message

/-- How a run ends. -/
inductive Outcome
  | done (sent : Option ClientMessage)
  | failed (failure : Failure)
  | crashed (cause : Overflow)
  | stopped (stop : CommandLine.Stop)
  deriving DecidableEq, Repr

namespace Outcome

/-- How a run ends whose command is given up. -/
def ofReason : RunError DisplayError → Outcome
  | .overflow cause => .crashed cause
  | reason => .failed (.command reason)

def status : Outcome → Nat
  | .done _ => 0
  | .failed _ => 1
  | .crashed _ => 101
  | .stopped .information => 0
  | .stopped .misuse => 2

/-- The message of a run that fails, as its log has it. -/
def message? : Outcome → Option String
  | .failed failure => some (Text.plain failure.message)
  | _ => none

/-- The messages that a run has sent to the root window. -/
def sent : Outcome → List ClientMessage
  | .done sent => sent.toList
  | _ => []

end Outcome

namespace Environment

/-- The configuration of a run.  A file that is named has to be good; the one in the default
place is not needed, and passed over if it is no good. -/
def loadConfig (e : Environment) : Option String → Except ConfigError Config
  | some path => Config.load path (e.fileText path)
  | none => .ok ((e.defaultConfig.bind Config.ofText?).getD .default)

def carryOut (e : Environment) (honorStruts : Bool) (command : Command) : Outcome :=
  match e.display with
  | none => .failed .noConnection
  | some display =>
    match (display.desktop.plan honorStruts command).result with
    | .error reason => .ofReason reason
    | .ok request => .done (request.map Request.message)

/-- Run what a command line asks for. -/
def runRequest (e : Environment) (request : CommandLine.Request) : Outcome :=
  match e.loadConfig request.config with
  | .error failure => .failed (.config failure)
  | .ok config =>
    match request.invocation.command config.presets with
    | .error refusal => .failed (.argument refusal)
    | .ok command => e.carryOut config.honorStruts command

/-- Run a command line. -/
def run (e : Environment) (words : List String) : Outcome :=
  match CommandLine.read words with
  | .error stop => .stopped stop
  | .ok request => e.runRequest request

end Environment

end WindowPlacement
