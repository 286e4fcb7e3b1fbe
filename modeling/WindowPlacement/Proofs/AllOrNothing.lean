import WindowPlacement.CommandLine.Process
import WindowPlacement.Proofs.TitleSearch

/-!
# All or nothing

A run of a command line sends one message and ends well, or it sends none.  The only command that
may end well without a message is `switch`, if the active window is to stay where it is.

A display takes part in this only if the command line means a command.  Otherwise the run ends
before it connects to a display, and it ends in the same way on all of them.
-/

namespace WindowPlacement

namespace Desktop

section Requests

variable {Failure : Type} {d : Desktop Failure} {honorStruts : Bool} {command : Command}

/-- There is nothing to do for `switch`: fewer than two heads, or the destination is the head
that the active window is on. -/
def Stays (d : Desktop Failure) (destination : Destination) : Prop :=
  ∃ heads, d.heads = .ok heads ∧
    (heads.length < 2 ∨
      ∃ window frame current, d.activeWindow = .ok window ∧ d.frame window = .ok frame ∧
        owningHead frame heads = .ok current ∧
        (destination.resolve current : Except (RunError Failure) _) = .ok current)

def IsIdle (d : Desktop Failure) : Command → Prop
  | .switch destination => d.Stays destination
  | _ => False

/-- A message is one for a command, and about the window that the command is for. -/
def Concerns (d : Desktop Failure) (message : ClientMessage) : Command → Prop
  | .moveResize _ | .switch _ =>
    message.type = "_NET_MOVERESIZE_WINDOW" ∧ d.activeWindow = .ok message.window
  | .toggle _ => message.type = "_NET_WM_STATE" ∧ d.activeWindow = .ok message.window
  | .focus pattern =>
    message.type = "_NET_ACTIVE_WINDOW" ∧ d.IsTopmostMatch pattern message.window

/-- A command comes to no message if there is nothing to do for it, and else to one message. -/
def Settles (d : Desktop Failure) (command : Command) (sent : List ClientMessage) : Prop :=
  (d.IsIdle command ∧ sent = []) ∨
    (¬d.IsIdle command ∧ ∃ message, sent = [message] ∧ d.Concerns message command)

theorem result_planSwitch_eq_none_iff {destination : Destination} :
    (d.planSwitch destination).result = .ok none ↔ d.Stays destination := by
  rw [result_planSwitch_eq_ok_iff, Stays]
  refine exists_congr fun heads => and_congr_right fun _ => ?_
  by_cases few : heads.length < 2
  · simp [few]
  rw [if_neg few, or_iff_right few]
  constructor
  · rintro ⟨window, frame, active, framed, current, index, owned, resolved, ended⟩
    split at ended
    · rename_i same
      exact ⟨window, frame, current, active, framed, owned, same ▸ resolved⟩
    · obtain ⟨extents, -, moves⟩ := ended
      cases moves
  · rintro ⟨window, frame, current, active, framed, owned, resolved⟩
    exact ⟨window, frame, active, framed, current, current, owned, resolved, by simp⟩

/-- A plan ends without a request iff there is nothing to do. -/
theorem result_plan_eq_none_iff :
    (d.plan honorStruts command).result = .ok none ↔ d.IsIdle command := by
  cases command with
  | switch destination => exact result_planSwitch_eq_none_iff
  | moveResize placement => simp [plan, Inquiry.result_map_eq_ok_iff, IsIdle]
  | focus pattern => simp [plan, Inquiry.result_map_eq_ok_iff, IsIdle]
  | toggle state => simp [plan, Inquiry.result_map_eq_ok_iff, IsIdle]

theorem concerns_of_plan {request : Request}
    (planned : (d.plan honorStruts command).result = .ok (some request)) :
    d.Concerns request.message command := by
  cases command with
  | moveResize placement =>
    obtain ⟨request', placed, same⟩ := Inquiry.result_map_eq_ok_iff.mp planned
    obtain rfl := Option.some.inj same
    obtain ⟨window, _, _, _, _, active, -, -, -, -, rfl⟩ :=
      result_planMoveResize_eq_ok_iff.mp placed
    exact ⟨rfl, active⟩
  | focus pattern =>
    obtain ⟨request', matched, same⟩ := Inquiry.result_map_eq_ok_iff.mp planned
    obtain rfl := Option.some.inj same
    obtain ⟨_, window, _, answered, found, rfl⟩ := result_planFocus_eq_ok_iff.mp matched
    exact ⟨rfl, isTopmostMatch_of_findTitle answered found⟩
  | toggle state =>
    obtain ⟨request', toggled, same⟩ := Inquiry.result_map_eq_ok_iff.mp planned
    obtain rfl := Option.some.inj same
    obtain ⟨window, active, rfl⟩ := result_planToggle_eq_ok_iff.mp toggled
    exact ⟨rfl, active⟩
  | switch destination =>
    obtain ⟨heads, -, ended⟩ := result_planSwitch_eq_ok_iff.mp planned
    split at ended
    · cases ended
    obtain ⟨window, _, active, -, _, _, -, -, ended⟩ := ended
    split at ended
    · cases ended
    obtain ⟨_, -, moves⟩ := ended
    obtain rfl := Option.some.inj moves
    exact ⟨rfl, active⟩

theorem settles_of_plan {outcome : Option Request}
    (planned : (d.plan honorStruts command).result = .ok outcome) :
    d.Settles command (outcome.map Request.message).toList := by
  cases outcome with
  | none => exact .inl ⟨result_plan_eq_none_iff.mp planned, rfl⟩
  | some request =>
    refine .inr ⟨?_, request.message, rfl, concerns_of_plan planned⟩
    intro idle
    rw [result_plan_eq_none_iff.mpr idle] at planned
    cases planned

end Requests

end Desktop

namespace Environment

variable {e : Environment} {words : List String} {config : Config} {command : Command}

/-- With the configuration, a command line means a command. -/
def Means (e : Environment) (words : List String) (config : Config) (command : Command) : Prop :=
  ∃ request, CommandLine.read words = .ok request ∧ e.loadConfig request.config = .ok config ∧
    request.invocation.command config.presets = .ok command

theorem run_of_means (meant : e.Means words config command) :
    e.run words = e.carryOut config.honorStruts command := by
  obtain ⟨request, read, loaded, checked⟩ := meant
  simp only [run, read, runRequest, loaded, checked]

section Display

variable {d : Display} (connected : e.display = some d) (meant : e.Means words config command)
include connected meant

theorem run_of_plan_ok {outcome : Option Request}
    (planned : (d.desktop.plan config.honorStruts command).result = .ok outcome) :
    e.run words = .done (outcome.map Request.message) := by
  rw [run_of_means meant]
  simp only [carryOut, connected, planned]

theorem run_of_plan_error {reason : RunError DisplayError}
    (planned : (d.desktop.plan config.honorStruts command).result = .error reason) :
    e.run words = .ofReason reason := by
  rw [run_of_means meant]
  simp only [carryOut, connected, planned]

end Display

theorem run_of_not_means (senseless : ¬∃ config command, e.Means words config command)
    (display : Option Display) :
    ({ e with display := display } : Environment).run words = e.run words ∧
      ∀ request, CommandLine.read words = .ok request → (e.run words).status = 1 := by
  cases read : CommandLine.read words with
  | error stop => simp [run, read]
  | ok request =>
    have loads_alike : ({ e with display := display } : Environment).loadConfig request.config =
      e.loadConfig request.config := rfl
    cases loaded : e.loadConfig request.config with
    | error failure =>
      simp [run, read, runRequest, loads_alike, loaded, Outcome.status]
    | ok config =>
      cases checked : request.invocation.command config.presets with
      | error refusal =>
        simp [run, read, runRequest, loads_alike, loaded, checked, Outcome.status]
      | ok command => exact absurd ⟨config, command, request, read, loaded, checked⟩ senseless

theorem sent_eq_nil_of_status_ne_zero {outcome : Outcome} (failed : outcome.status ≠ 0) :
    outcome.sent = [] := by
  cases outcome with
  | done sent => exact absurd rfl failed
  | failed failure => rfl
  | crashed cause => rfl
  | stopped stop => rfl

theorem status_ofReason_ne_zero (reason : RunError DisplayError) :
    (Outcome.ofReason reason).status ≠ 0 := by
  cases reason <;> simp [Outcome.ofReason, Outcome.status]

theorem carryOut_of_status_eq_zero {honorStruts : Bool}
    (succeeded : (e.carryOut honorStruts command).status = 0) :
    ∃ display, e.display = some display ∧
      display.desktop.Settles command (e.carryOut honorStruts command).sent := by
  cases connected : e.display with
  | none => simp [carryOut, connected, Outcome.status] at succeeded
  | some display =>
    cases planned : (display.desktop.plan honorStruts command).result with
    | error reason =>
      simp only [carryOut, connected, planned] at succeeded
      exact absurd succeeded (status_ofReason_ne_zero reason)
    | ok outcome =>
      refine ⟨display, rfl, ?_⟩
      simp only [carryOut, connected, planned]
      exact Desktop.settles_of_plan planned

/-- How a run of a command line ends: with everything done that it is for, or with nothing sent.  A
failing question ends it, unless the command `Tolerates` the question.  A command line that means
no command comes to the same on every display. -/
structure AllOrNothing (e : Environment) (words : List String) : Prop where
  nothing : (e.run words).status ≠ 0 → (e.run words).sent = []
  settled : ∀ request, CommandLine.read words = .ok request → (e.run words).status = 0 →
    ∃ display config command, e.display = some display ∧ e.Means words config command ∧
      display.desktop.Settles command (e.run words).sent
  stops : ∀ display config command query failure,
    e.display = some display → e.Means words config command →
      query ∈ (display.desktop.plan config.honorStruts command).queries →
      display.desktop.FailsWith query failure → ¬command.Tolerates query →
      e.run words = .failed (.command (.desktop failure))
  unconnected : ∀ config command, e.Means words config command → e.display = none →
    e.run words = .failed .noConnection
  independent : (¬∃ config command, e.Means words config command) → ∀ display,
    ({ e with display := display } : Environment).run words = e.run words ∧
      ∀ request, CommandLine.read words = .ok request → (e.run words).status = 1

theorem run_all_or_nothing (e : Environment) (words : List String) : e.AllOrNothing words where
  nothing := sent_eq_nil_of_status_ne_zero
  settled request read succeeded := by
    by_cases meaningful : ∃ config command, e.Means words config command
    · obtain ⟨config, command, meant⟩ := meaningful
      rw [run_of_means meant] at succeeded ⊢
      obtain ⟨display, connected, settled⟩ := carryOut_of_status_eq_zero succeeded
      exact ⟨display, config, command, connected, meant, settled⟩
    · obtain ⟨-, fails⟩ := run_of_not_means meaningful e.display
      rw [fails request read] at succeeded
      cases succeeded
  stops display config command query failure connected meant asked fails strict := by
    obtain ⟨before, after, split⟩ := List.append_of_mem asked
    obtain ⟨-, givenUp⟩ := (Desktop.heeds_plan config.honorStruts command).stops before query
      after failure split fails strict
    rw [run_of_means meant]
    simp only [carryOut, connected, givenUp, Outcome.ofReason]
  unconnected config command meant missing := by
    rw [run_of_means meant]
    simp only [carryOut, missing]
  independent := run_of_not_means

end Environment

end WindowPlacement
