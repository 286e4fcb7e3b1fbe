import WindowPlacement.Proofs.Calls
import WindowPlacement.Proofs.TitleSearch
import WindowPlacement.Session

/-!
# What a series of commands may touch

Every command leaves almost all of a workspace alone: it may change the frame of the window that
is active, or one of its flags, or, to focus a window, put that window on top of the stack.  So
the things that no command changes are after any series of commands as they were at the start,
whichever of the commands are refused or fail.
-/

namespace WindowPlacement

/-- The commands that ask for a frame of the active window. -/
def Command.IsMove : Command → Prop
  | .moveResize _ | .switch _ => True
  | .focus _ | .toggle _ => False

/-- A request is about the active window, or to focus a window that is stacked. -/
theorem Desktop.request_cases {Failure : Type} {d : Desktop Failure} {honorStruts : Bool}
    {command : Command} {request : Request}
    (planned : (d.plan honorStruts command).result = .ok (some request)) :
    (∃ window target, command.IsMove ∧ d.activeWindow = .ok window ∧
      request = .moveResize window target) ∨
    (∃ pattern window, command = .focus pattern ∧ ∃ below above,
      d.stackingOrder = .ok (below ++ window :: above) ∧ d.Matches pattern window ∧
      (∀ other ∈ above, ¬d.Matches pattern other) ∧ request = .activate window) ∨
    ∃ state window, command = .toggle state ∧ d.activeWindow = .ok window ∧
      request = .toggle window state := by
  cases command with
  | moveResize placement =>
    obtain ⟨_, placed, same⟩ := Inquiry.result_map_eq_ok_iff.mp planned
    obtain rfl := Option.some.inj same
    obtain ⟨window, _, _, _, target, active, -, -, -, -, rfl⟩ :=
      result_planMoveResize_eq_ok_iff.mp placed
    exact .inl ⟨window, target, trivial, active, rfl⟩
  | focus pattern =>
    obtain ⟨_, matched, same⟩ := Inquiry.result_map_eq_ok_iff.mp planned
    obtain rfl := Option.some.inj same
    obtain ⟨_, window, _, answered, found, rfl⟩ := result_planFocus_eq_ok_iff.mp matched
    obtain ⟨below, above, split, matched, topmost⟩ := isTopmostMatch_of_findTitle answered found
    exact .inr (.inl ⟨pattern, window, rfl, below, above, split, matched, topmost, rfl⟩)
  | toggle state =>
    obtain ⟨_, toggled, same⟩ := Inquiry.result_map_eq_ok_iff.mp planned
    obtain rfl := Option.some.inj same
    obtain ⟨window, active, rfl⟩ := result_planToggle_eq_ok_iff.mp toggled
    exact .inr (.inr ⟨state, window, rfl, active, rfl⟩)
  | switch destination =>
    obtain ⟨heads, -, ended⟩ := result_planSwitch_eq_ok_iff.mp planned
    split at ended
    · cases ended
    obtain ⟨window, _, active, -, _, _, -, -, ended⟩ := ended
    split at ended
    · cases ended
    obtain ⟨extents, -, moves⟩ := ended
    exact .inl ⟨window, _, trivial, active, Option.some.inj moves⟩

/-- What no command changes about a window: its number, its decorations, its title and the space
that it reserves. -/
def ManagedWindow.fixedPart (w : ManagedWindow) :
    WindowId × FrameExtents × Option String × Option Strut :=
  (w.id, w.extents, w.title, w.strut)

namespace Workspace

/-- A workspace comes after another one as far as a command changes it: the active window has
another frame, one of its flags is switched, or a window of the stack has been taken to the top. -/
inductive TouchedBy (w : Workspace) (command : Command) : Workspace → Prop
  | nothing : TouchedBy w command w
  | frame (window : WindowId) (newFrame : ManagedWindow → Rect) (moves : command.IsMove)
      (active : w.active = some window) :
      TouchedBy w command (w.modify window fun found => { found with frame := newFrame found })
  | flag (window : WindowId) (state : WindowState) (toggles : command = .toggle state)
      (active : w.active = some window) :
      TouchedBy w command (w.modify window fun found => found.toggle state)
  | stack (pattern : TitlePattern) (window : WindowId) (below above : List WindowId)
      (focuses : command = .focus pattern) (stacked : w.stacking = below ++ window :: above) :
      TouchedBy w command
        { w with active := some window, stacking := below ++ above ++ [window] }

/-- What no command changes is the same in two workspaces, and the same windows are stacked. -/
structure Keeps (w after : Workspace) : Prop where
  root : after.root = w.root
  heads : after.heads = w.heads
  faults : after.faults = w.faults
  windows : after.windows.map ManagedWindow.fixedPart = w.windows.map ManagedWindow.fixedPart
  stacking : after.stacking.Perm w.stacking

theorem Keeps.refl (w : Workspace) : w.Keeps w :=
  ⟨rfl, rfl, rfl, rfl, .refl _⟩

theorem Keeps.trans {w between after : Workspace} (first : w.Keeps between)
    (second : between.Keeps after) : w.Keeps after where
  root := second.root.trans first.root
  heads := second.heads.trans first.heads
  faults := second.faults.trans first.faults
  windows := second.windows.trans first.windows
  stacking := second.stacking.trans first.stacking

section Steps

variable {w after : Workspace} {command : Command}

theorem keeps_modify (w : Workspace) (window : WindowId)
    {change : ManagedWindow → ManagedWindow}
    (fixed : ∀ found, (change found).fixedPart = found.fixedPart) :
    w.Keeps (w.modify window change) := by
  refine ⟨rfl, rfl, rfl, ?_, .refl _⟩
  simp only [modify, List.map_map]
  apply List.map_congr_left
  intro candidate _
  by_cases same : candidate.id = window <;> simp [same, fixed]

theorem TouchedBy.keeps (touched : w.TouchedBy command after) : w.Keeps after := by
  cases touched with
  | nothing => exact .refl w
  | frame window newFrame moves active => exact w.keeps_modify window fun _ => rfl
  | flag window state toggles active =>
    refine w.keeps_modify window fun found => ?_
    cases state <;> rfl
  | stack pattern window below above focuses stacked =>
    refine ⟨rfl, rfl, rfl, rfl, ?_⟩
    have moved : (below ++ above ++ [window]).Perm (below ++ window :: above) := by
      rw [List.append_assoc]
      exact List.perm_append_singleton window above |>.append_left below
    rw [stacked]
    exact moved

theorem filter_ne_of_nodup {window : WindowId} {below above : List WindowId}
    (distinct : (below ++ window :: above).Nodup) :
    (below ++ window :: above).filter (· ≠ window) = below ++ above := by
  obtain ⟨-, distinct_above, apart⟩ := List.nodup_append.mp distinct
  have not_below : ∀ other ∈ below, decide (other ≠ window) = true := fun other member =>
    decide_eq_true (apart other member window (List.mem_cons_self ..))
  have not_above : ∀ other ∈ above, decide (other ≠ window) = true := fun other member =>
    decide_eq_true (ne_of_mem_of_not_mem member (List.nodup_cons.mp distinct_above).1)
  rw [List.filter_append, List.filter_cons, List.filter_eq_self.mpr not_below,
    List.filter_eq_self.mpr not_above]
  simp

theorem touchedBy_carryOut {honorStruts : Bool} {request : Request}
    (distinct : w.stacking.Nodup)
    (planned : (w.desktop.plan honorStruts command).result = .ok (some request)) :
    w.TouchedBy command (w.carryOut request) := by
  rcases Desktop.request_cases planned with ⟨window, target, moves, active, rfl⟩ |
    ⟨pattern, window, rfl, below, above, split, -, -, rfl⟩ | ⟨state, window, rfl, active, rfl⟩
  · exact .frame window (fun found => (found.moveResize target).frame) moves
      (active_eq_of_answer active)
  · have stacked : w.stacking = below ++ window :: above :=
      Except.ok.inj (eq_of_guarded_eq_ok split)
    have effect : w.carryOut (.activate window) =
        { w with active := some window, stacking := below ++ above ++ [window] } := by
      rw [carryOut, stacked, filter_ne_of_nodup (stacked ▸ distinct)]
    rw [effect]
    exact .stack pattern window below above rfl stacked
  · exact .flag window state rfl (active_eq_of_answer active)

theorem touchedBy_run (distinct : w.stacking.Nodup) (honorStruts : Bool) (command : Command) :
    w.TouchedBy command (w.run honorStruts command).2 := by
  rcases w.run_cases honorStruts command with
    ⟨_, -, ran⟩ | ⟨-, ran⟩ | ⟨_, _, -, -, ran⟩ | ⟨request, planned, -, ran⟩
  · rw [ran]
    exact .nothing
  · rw [ran]
    exact .nothing
  · rw [ran]
    exact .nothing
  · rw [ran]
    exact touchedBy_carryOut distinct planned

end Steps

end Workspace

namespace Session

def invokeAll (s : Session) (invocations : List Invocation) : Session :=
  invocations.foldl (fun s invocation => (s.step (.invoke invocation)).2) s

/-- A session comes after another one as far as an invocation changes it: not at all if it is
refused, and else as far as its command does. -/
structure TouchedBy (s : Session) (invocation : Invocation) (after : Session) : Prop where
  config : after.config = s.config
  refused : ∀ refusal, invocation.command s.config.presets = .error refusal →
    after.workspace = s.workspace
  ran : ∀ command, invocation.command s.config.presets = .ok command →
    s.workspace.TouchedBy command after.workspace

theorem touchedBy_step {s : Session} (distinct : s.workspace.stacking.Nodup)
    (invocation : Invocation) : s.TouchedBy invocation (s.step (.invoke invocation)).2 := by
  cases checked : invocation.command s.config.presets with
  | error refusal => constructor <;> simp [step, checked]
  | ok command =>
    constructor
    · simp [step, checked]
    · simp [checked]
    · intro meant same
      obtain rfl := Except.ok.inj (checked.symm.trans same)
      simp only [step, checked]
      exact Workspace.touchedBy_run distinct s.config.honorStruts command

theorem TouchedBy.keeps {s after : Session} {invocation : Invocation}
    (touched : s.TouchedBy invocation after) : s.workspace.Keeps after.workspace := by
  cases checked : invocation.command s.config.presets with
  | error refusal =>
    rw [touched.refused refusal checked]
    exact .refl _
  | ok command => exact (touched.ran command checked).keeps

theorem keeps_invokeAll (s : Session) (distinct : s.workspace.stacking.Nodup)
    (invocations : List Invocation) :
    (s.invokeAll invocations).config = s.config ∧
      s.workspace.Keeps (s.invokeAll invocations).workspace := by
  -- Each step leaves a stack without repetitions, so the next step finds one.
  induction invocations generalizing s with
  | nil => exact ⟨rfl, .refl _⟩
  | cons invocation rest ih =>
    have touched := touchedBy_step distinct invocation
    have first := touched.keeps
    obtain ⟨config, others⟩ := ih _ (first.stacking.nodup_iff.mpr distinct)
    exact ⟨config.trans touched.config, first.trans others⟩

/-- After every series of invocations, what no command changes is as it was at the start, and the
next invocation touches only what its command may touch. -/
theorem runs_touch_little (s : Session) (distinct : s.workspace.stacking.Nodup)
    (invocations : List Invocation) :
    (s.invokeAll invocations).config = s.config ∧
      s.workspace.Keeps (s.invokeAll invocations).workspace ∧
      ∀ next, (s.invokeAll invocations).TouchedBy next
        ((s.invokeAll invocations).step (.invoke next)).2 := by
  obtain ⟨config, keeps⟩ := s.keeps_invokeAll distinct invocations
  exact ⟨config, keeps, touchedBy_step (keeps.stacking.nodup_iff.mpr distinct)⟩

/-- Two windows on two heads, the active one below the other one, whose title cannot be read. -/
def twoWindows : Session where
  config := .default
  workspace :=
    { root := ⟨0, 0, 3200, 1080⟩
      heads := [⟨0, 0, 1920, 1080⟩, ⟨1920, 0, 1280, 1024⟩]
      active := some 1
      windows :=
        [⟨1, ⟨100, 100, 400, 300⟩, ⟨2, 2, 20, 2⟩, some "shell", none, false, false⟩,
          ⟨2, ⟨500, 300, 800, 600⟩, .zero, some "editor", none, false, true⟩]
      stacking := [1, 2]
      faults := ["window_title:2"] }

theorem twoWindows_runs_touch_little :
    twoWindows.workspace.stacking.Nodup ∧
      let reached := twoWindows.invokeAll [.maximize, .toggle "wide", .switch "dir=right"]
      reached.config = twoWindows.config ∧ twoWindows.workspace.Keeps reached.workspace ∧
        ∀ next, reached.TouchedBy next (reached.step (.invoke next)).2 := by
  have distinct : twoWindows.workspace.stacking.Nodup := by decide
  exact ⟨distinct, runs_touch_little twoWindows distinct
    [.maximize, .toggle "wide", .switch "dir=right"]⟩

end Session

end WindowPlacement
