import WindowPlacement.Proofs.AllOrNothing
import WindowPlacement.Proofs.NamedConfig

/-!
# Where the configuration matters

A configuration that is named has to be good, or else the run fails with it and with nothing
else.  The one in the default place need not be: if it is no good, the run goes on as without
it.  And only a placement depends on what it holds.
-/

namespace WindowPlacement

open CommandLine

/-- What can be found at a place where a file may be. -/
inductive StoredFile
  | missing
  | unreadable
  | holds (bytes : ByteArray)

/-- The text of a file, if it can be read and its bytes are a text. -/
def StoredFile.text? : StoredFile → Option String
  | .holds bytes => String.fromUTF8? bytes
  | .missing | .unreadable => none

def Invocation.IsPlacement : Invocation → Prop
  | .moveResize _ => True
  | .focus _ | .maximize | .toggle _ | .switch _ => False

theorem exists_of_map_eq_ok {α β Reason : Type} {result : Except Reason α} {f : α → β} {value : β}
    (mapped : result.map f = .ok value) : ∃ found, f found = value := by
  cases result with
  | error reason => cases mapped
  | ok found => exact ⟨found, Except.ok.inj mapped⟩

/-- Presets are only for placements, and so is the decision about reserved space. -/
theorem Invocation.carryOut_congr {invocation : Invocation} (other : ¬invocation.IsPlacement)
    (config config' : Config) :
    invocation.command config.presets = invocation.command config'.presets ∧
      ∀ command, invocation.command config.presets = .ok command → ∀ e : Environment,
        e.carryOut config.honorStruts command = e.carryOut config'.honorStruts command := by
  cases invocation with
  | moveResize parameters => exact absurd trivial other
  | maximize =>
    refine ⟨rfl, fun command checked e => ?_⟩
    rw [← Except.ok.inj checked]
    rfl
  | focus parameter =>
    refine ⟨rfl, fun command checked e => ?_⟩
    obtain ⟨pattern, rfl⟩ := exists_of_map_eq_ok checked
    rfl
  | toggle state =>
    refine ⟨rfl, fun command checked e => ?_⟩
    obtain ⟨state, rfl⟩ := exists_of_map_eq_ok checked
    rfl
  | switch destination =>
    refine ⟨rfl, fun command checked e => ?_⟩
    obtain ⟨destination, rfl⟩ := exists_of_map_eq_ok checked
    rfl

namespace Environment

def withDefault (e : Environment) (file : StoredFile) : Environment :=
  { e with defaultConfig := file.text? }

variable {e : Environment} {words : List String} {request : CommandLine.Request}

theorem ofText?_of_load_error {path : String} {text : Option String} {failure : ConfigError}
    (failed : Config.load path text = .error failure) : text.bind Config.ofText? = none := by
  cases text with
  | none => rfl
  | some text =>
    rw [Config.load] at failed
    split at failed
    · assumption
    · cases failed

theorem run_of_read_error {stop : Stop} (stopped : read words = .error stop) :
    e.run words = .stopped stop := by
  simp only [run, stopped]

theorem run_withDefault (file : StoredFile) (understood : read words = .ok request)
    (unnamed : configPath? words = none) :
    (e.withDefault file).run words =
      match request.invocation.command
        ((file.text?.bind Config.ofText?).getD .default).presets with
      | .error refusal => .failed (.argument refusal)
      | .ok command =>
        e.carryOut ((file.text?.bind Config.ofText?).getD .default).honorStruts command := by
  have no_path : request.config = none := (config_of_read understood).trans unnamed
  simp only [run, understood, runRequest, no_path, loadConfig]
  rfl

theorem run_of_config_error {path : String} {failure : ConfigError}
    (understood : read words = .ok request) (named : configPath? words = some path)
    (failed : Config.load path (e.fileText path) = .error failure) :
    e.run words = .failed (.config failure) := by
  have known_path : request.config = some path := (config_of_read understood).trans named
  simp only [run, understood, runRequest, known_path, loadConfig, failed]

/-- What a configuration can do to a run, and what it cannot.  A default configuration that cannot
be loaded is as good as none, and only placements depend on one; a named configuration that cannot
be loaded is all that a run fails with. -/
structure HeedsConfig (e : Environment) (words : List String) : Prop where
  useless : configPath? words = none → ∀ file path failure,
    Config.load path (StoredFile.text? file) = .error failure →
      (e.withDefault file).run words = (e.withDefault .missing).run words
  unread : configPath? words = none →
    (∀ request, read words = .ok request → ¬request.invocation.IsPlacement) →
      ∀ file other, (e.withDefault file).run words = (e.withDefault other).run words
  named : ∀ request path failure, read words = .ok request → configPath? words = some path →
    Config.load path (e.fileText path) = .error failure → ∀ file display,
      let outcome := ({ e.withDefault file with display := display } : Environment).run words
      outcome.status = 1 ∧ outcome.message? = some (Text.plain failure.message) ∧
        outcome.sent = []

theorem run_heeds_config (e : Environment) (words : List String) : e.HeedsConfig words where
  useless unnamed file path failure failed := by
    cases understood : read words with
    | error stop => rw [run_of_read_error understood, run_of_read_error understood]
    | ok request =>
      rw [run_withDefault file understood unnamed, run_withDefault .missing understood unnamed,
        ofText?_of_load_error failed]
      rfl
  unread unnamed harmless file other := by
    cases understood : read words with
    | error stop => rw [run_of_read_error understood, run_of_read_error understood]
    | ok request =>
      rw [run_withDefault file understood unnamed, run_withDefault other understood unnamed]
      obtain ⟨same, alike⟩ := Invocation.carryOut_congr (harmless request understood)
        ((file.text?.bind Config.ofText?).getD .default)
        ((other.text?.bind Config.ofText?).getD .default)
      rw [← same]
      cases checked : request.invocation.command
          ((file.text?.bind Config.ofText?).getD .default).presets with
      | error refusal => rfl
      | ok command => exact alike command checked e
  named request path failure understood named failed file display := by
    have ran := run_of_config_error (e := { e.withDefault file with display := display })
      understood named failed
    simp only [ran]
    exact ⟨rfl, rfl, rfl⟩

/-- A display with an active window and nothing else. -/
def activeOnly : Environment where
  fileText path := if path = "good.json" then some "[]" else none
  defaultConfig := none
  display := some ⟨80, ⟨0, 0, 1920, 1080⟩,
    [("_NET_ACTIVE_WINDOW", .ofItems "WINDOW" 32 [256])], none, [(256, ⟨⟨0, 0, 9, 9⟩, []⟩)]⟩

/-- A path that is named before another one, or in a request for help, is not looked at. -/
theorem activeOnly_overlooks_path :
    Config.load "missing.json" (activeOnly.fileText "missing.json") =
        .error (.unreadable "missing.json") ∧
      activeOnly.run ["--config", "missing.json", "maximize", "--config", "good.json"] =
        .done (some ⟨256, "_NET_WM_STATE", [2, 310, 311, 2, 0]⟩) ∧
      activeOnly.run ["--config", "missing.json", "--help"] = .stopped .information := by
  have parsed : Config.ofText? "[]" = some .default := by cbv
  have loaded : activeOnly.loadConfig (some "good.json") = .ok .default := by
    change Config.load "good.json" (some "[]") = _
    simp only [Config.load, parsed]
  have meant : activeOnly.Means ["--config", "missing.json", "maximize", "--config", "good.json"]
      .default (.toggle .maximized) := ⟨⟨some "good.json", .maximize⟩, rfl, loaded, rfl⟩
  exact ⟨rfl, run_of_means meant, rfl⟩

end Environment

end WindowPlacement
