import WindowPlacement.Command.Invocation
import WindowPlacement.Config.Basic
import WindowPlacement.Desktop.Update

/-!
# Sessions

A session is a series of steps on one workspace: invocations of commands, and changes from
outside.  Arguments are checked before a command is run, and an invocation whose arguments
are refused asks nothing of the workspace.
-/

namespace WindowPlacement

/-- A workspace with the configuration under which commands are run on it. -/
structure Session where
  config : Config
  workspace : Workspace

namespace Session

/-- One step of a session. -/
inductive Step
  | update (changes : WorkspaceUpdate) (honorStruts : Option Bool)
  | invoke (invocation : Invocation)

/-- What came of a step. -/
inductive Outcome
  | updated
  | refused (refusal : ArgumentError)
  | ran (report : Workspace.Report)

def step (s : Session) : Step → Outcome × Session
  | .update changes honorStruts =>
    let config := { s.config with honorStruts := honorStruts.getD s.config.honorStruts }
    (.updated, ⟨config, s.workspace.update changes⟩)
  | .invoke invocation =>
    match invocation.command s.config.presets with
    | .error refusal => (.refused refusal, s)
    | .ok command =>
      let (report, workspace) := s.workspace.run s.config.honorStruts command
      (.ran report, { s with workspace := workspace })

end Session

end WindowPlacement
