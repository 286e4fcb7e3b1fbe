import WindowPlacement.CommandLine.Process
import WindowPlacement.Display.Snapshot

/-!
# The program

The program runs its command line against the display whose snapshot stands on the standard
input.  It prints the client messages that the window manager is to get, one a line: the
window, the type and the five words.  The display counts as not there if the input is no
snapshot.
-/

namespace WindowPlacement.Program

def fileText? (path : String) : IO (Option String) := do
  try
    return some (← IO.FS.readFile path)
  catch _ =>
    return none

/-- Read a stream up to its end, behind some text that has been read. -/
partial def readOn (stream : IO.FS.Stream) (text : String) : IO String := do
  let line ← stream.getLine
  if line.isEmpty then
    return text
  else
    readOn stream (text ++ line)

def readDisplay : IO (Option Display) := do
  let text ← readOn (← IO.getStdin) ""
  return (JsonValue.ofString? text).bind Display.ofJson?

def messageLine (message : ClientMessage) : String :=
  " ".intercalate
    (toString message.window :: message.type :: message.data.map fun word => toString word)

/-- How the program is called. -/
def usage : String :=
  "Usage: [--config PATH] COMMAND\n\n" ++
  "  moveresize [PARAM...]       Move and/or resize the active window\n" ++
  "  focus match=REGEX           Activate the topmost window whose title matches\n" ++
  "  maximize                    Toggle the maximized state of the active window\n" ++
  "  toggle maximized|fullscreen Toggle a state of the active window\n" ++
  "  switch head=N|dir=DIR       Move the active window to another head"

/-- Find out what there is around a command line. -/
def environment (request : CommandLine.Request) : IO Environment := do
  let named ← match request.config with
    | some path => fileText? path
    | none => pure none
  let defaultPath := defaultConfigPath (← IO.getEnv "XDG_CONFIG_HOME") (← IO.getEnv "HOME")
  let defaultConfig ← fileText? defaultPath
  let display ← readDisplay
  return ⟨fun path => if request.config = some path then named else none, defaultConfig, display⟩

/-- Print what a run has to say. -/
def report (outcome : Outcome) : IO Unit := do
  for message in outcome.sent do
    IO.println (messageLine message)
  match outcome.message? with
  | some message => IO.eprintln message
  | none => pure ()
  match outcome with
  | .done _ | .failed _ => return
  | .crashed cause => IO.eprintln cause.message
  | .stopped .information => IO.println usage
  | .stopped .misuse => IO.eprintln usage

/-- Run a command line. -/
def run (words : List String) : IO Outcome := do
  match CommandLine.read words with
  | .error stop => return .stopped stop
  | .ok request => return (← environment request).runRequest request

end WindowPlacement.Program

/-- Run the command line of the program. -/
def main (words : List String) : IO UInt32 := do
  let outcome ← WindowPlacement.Program.run words
  WindowPlacement.Program.report outcome
  return UInt32.ofNat outcome.status
