import Mathlib.Tactic.Set
import WindowPlacement.Proofs.Calls
import WindowPlacement.Proofs.Framing
import WindowPlacement.Proofs.HeadRing
import WindowPlacement.Proofs.Ownership

/-!
# Switching to another head

A command to switch moves the active window to the center of another head.  The next command
finds the window by its center, and since heads are separate it finds it on the head that the
window was moved to.

A workspace is arranged for its active window if no call fails, the heads are separate, and
the center of the window is on a head.  Every command to switch keeps it arranged, with a window
of the same size.
-/

namespace WindowPlacement

section Centering

/-- The frame of the size of another one whose center is that of a head. -/
def centeredFrame (head frame : Rect) : Rect where
  x := head.x + head.width.tdiv 2 - frame.width.tdiv 2
  y := head.y + head.height.tdiv 2 - frame.height.tdiv 2
  width := frame.width
  height := frame.height

theorem center_centeredFrame (head frame : Rect) :
    (centeredFrame head frame).center = head.center := by
  simp only [centeredFrame, Rect.center, Prod.mk.injEq]
  omega

theorem ManagedWindow.moveResize_centeredOn {found : ManagedWindow} (head : Rect)
    (decorated : found.extents.Nonneg)
    (fits : found.extents.FitsIn found.frame.width found.frame.height) :
    found.moveResize (centeredOn head found.frame found.extents) =
      { found with frame := centeredFrame head found.frame } :=
  found.moveResize_eq decorated fits _ _

/-- The margins of a frame within a head are as wide on both sides, up to one pixel. -/
structure Rect.HasEvenMargins (frame head : Rect) : Prop where
  across : 0 ≤ frame.width → (frame.x - head.x - (head.right - frame.right)).natAbs ≤ 1
  down : 0 ≤ frame.height → (frame.y - head.y - (head.bottom - frame.bottom)).natAbs ≤ 1

theorem Rect.hasEvenMargins_of_center {frame head : Rect} (wide : 0 ≤ head.width)
    (tall : 0 ≤ head.height) (centered : frame.center = head.center) :
    frame.HasEvenMargins head := by
  simp only [Rect.center, Prod.mk.injEq, Int.tdiv_eq_ediv_of_nonneg wide,
    Int.tdiv_eq_ediv_of_nonneg tall] at centered
  obtain ⟨across, down⟩ := centered
  constructor
  · intro nonneg
    rw [Int.tdiv_eq_ediv_of_nonneg nonneg] at across
    simp only [Rect.right]
    omega
  · intro nonneg
    rw [Int.tdiv_eq_ediv_of_nonneg nonneg] at down
    simp only [Rect.bottom]
    omega

end Centering

namespace Workspace

structure Reliable (w : Workspace) : Prop where
  queries : ∀ query : Query, w.isFaulty query.operation query.window? = false
  requests : ∀ request : Request, w.isFaulty request.operation (some request.window) = false

theorem reliable_of_faults_eq_nil {w : Workspace} (none : w.faults = []) : w.Reliable where
  queries query := by cases query <;> simp [isFaulty, none, Query.window?]
  requests request := by simp [isFaulty, none]

theorem Reliable.of_faults_eq {w after : Workspace} (reliable : w.Reliable)
    (same : after.faults = w.faults) : after.Reliable := by
  have faulty_eq : ∀ operation window,
      after.isFaulty operation window = w.isFaulty operation window := by
    intro operation window
    unfold isFaulty
    rw [same]
  constructor
  · intro query
    rw [faulty_eq, reliable.queries]
  · intro request
    rw [faulty_eq, reliable.requests]

theorem Reliable.guarded_eq {w : Workspace} {α : Type} (reliable : w.Reliable) (query : Query)
    (answer : Except WorkspaceError α) : w.guarded query answer = answer := by
  rw [guarded, reliable.queries, if_neg Bool.false_ne_true]

theorem Reliable.perform_eq {w : Workspace} (reliable : w.Reliable) {request : Request}
    {found : ManagedWindow} (known : w.find? request.window = some found) :
    w.perform request = .ok (w.carryOut request) := by
  rw [perform, reliable.requests, if_neg Bool.false_ne_true, known]

def activeWindow? (w : Workspace) : Option ManagedWindow :=
  w.active.bind w.find?

def headIndex? (w : Workspace) : Option ℕ :=
  w.activeWindow?.bind fun found => (owningHead found.frame w.heads).toOption.map Fin.val

theorem activeWindow?_eq_some_iff {w : Workspace} {found : ManagedWindow} :
    w.activeWindow? = some found ↔
      ∃ window, w.active = some window ∧ w.find? window = some found :=
  Option.bind_eq_some_iff

theorem headIndex?_eq_some {w : Workspace} {found : ManagedWindow} {index : Fin w.heads.length}
    (active : w.activeWindow? = some found)
    (owned : owningHead found.frame w.heads = .ok index) : w.headIndex? = some index.val := by
  simp [headIndex?, active, owned, Except.toOption]

/-- Nothing is in the way of switching the active window from head to head. -/
structure Arranged (w : Workspace) (found : ManagedWindow) : Prop where
  reliable : w.Reliable
  separate : SeparateHeads w.heads
  active : w.activeWindow? = some found
  decorated : found.extents.Nonneg
  fits : found.extents.FitsIn found.frame.width found.frame.height
  onHead : ∃ head ∈ w.heads,
    head.containsPoint found.frame.center.1 found.frame.center.2 = true

/-- What a command to switch comes to whose window goes from one frame to another.  On the head
that it is to go to the window stays where it is, on another one it gets into the middle. -/
structure Switches (w : Workspace) (honorStruts : Bool) (destination : Destination)
    (current : ℕ) (found moved : ManagedWindow) : Prop where
  succeeds : (w.run honorStruts (.switch destination)).1.failure = none
  active_before : w.activeWindow? = some found
  active_after : (w.run honorStruts (.switch destination)).2.activeWindow? = some moved
  head_before : w.headIndex? = some current
  head_after : (w.run honorStruts (.switch destination)).2.headIndex? =
    some (destination.target w.heads.length current)
  width : moved.frame.width = found.frame.width
  height : moved.frame.height = found.frame.height
  stays : destination.target w.heads.length current = current →
    (w.run honorStruts (.switch destination)).2 = w
  centered : destination.target w.heads.length current ≠ current →
    ∃ head, w.heads[destination.target w.heads.length current]? = some head ∧
      moved.frame.center = head.center ∧ moved.frame.HasEvenMargins head

section Steps

variable {w : Workspace} {found : ManagedWindow} {destination : Destination}

/-- The answers of an arranged workspace let a command to switch go through to its end. -/
theorem Arranged.result_plan (arranged : w.Arranged found) {current : Fin w.heads.length}
    (owned : owningHead found.frame w.heads = .ok current) {window : WindowId}
    (active : w.active = some window) (known : w.find? window = some found)
    (within : destination.IsWithin w.heads.length) (honorStruts : Bool) :
    (w.desktop.plan honorStruts (.switch destination)).result =
      .ok (if destination.target w.heads.length current = current then
          none
        else
          some (.moveResize window (centeredOn
            (w.heads.get ⟨destination.target w.heads.length current,
              Destination.target_lt within current.isLt⟩) found.frame found.extents))) := by
  have reliable := arranged.reliable
  have several := arranged.separate.several
  refine Desktop.result_planSwitch_eq_ok_iff.mpr ⟨w.heads, reliable.guarded_eq _ _, ?_⟩
  rw [if_neg (by omega)]
  refine ⟨window, found.frame, ?_, ?_, current, _, owned,
    Destination.resolve_eq_ok within current, ?_⟩
  · simp only [desktop, reliable.guarded_eq, active]
  · simp only [desktop, reliable.guarded_eq, about, known]
  · simp only [Fin.ext_iff]
    split_ifs
    · rfl
    · refine ⟨found.extents, ?_, rfl⟩
      simp only [desktop, reliable.guarded_eq, about, known]

/-- A window that gets a frame centered on a head leaves the workspace arranged. -/
theorem Arranged.reframe (arranged : w.Arranged found) (index : Fin w.heads.length)
    {window : WindowId} (active : w.active = some window)
    (known : w.find? window = some found) {after : Workspace}
    (reframed : w.Reframed window (centeredFrame (w.heads.get index) found.frame) after) :
    after.Arranged { found with frame := centeredFrame (w.heads.get index) found.frame } ∧
      after.heads = w.heads ∧ after.headIndex? = some index.val := by
  set frame := centeredFrame (w.heads.get index) found.frame with frame_def
  have centered : frame.center = (w.heads.get index).center := center_centeredFrame _ _
  have heads_eq : after.heads = w.heads := by rw [reframed.elsewhere]
  have active_after : after.activeWindow? = some { found with frame := frame } := by
    have same : after.active = some window := by rw [reframed.elsewhere]; exact active
    have framed := reframed.framed
    rw [known, Option.map_some] at framed
    exact activeWindow?_eq_some_iff.mpr ⟨window, same, framed⟩
  have large := arranged.separate.large (w.heads.get index) (w.heads.get_mem index)
  have inside := Rect.inside_center large.1 large.2
  refine ⟨?_, heads_eq, ?_⟩
  · constructor
    · exact arranged.reliable.of_faults_eq (by rw [reframed.elsewhere])
    · rw [heads_eq]
      exact arranged.separate
    · exact active_after
    · exact arranged.decorated
    · exact arranged.fits
    · refine ⟨w.heads.get index, ?_, ?_⟩
      · rw [heads_eq]
        exact List.getElem_mem _
      · rw [centered]
        exact inside.containsPoint
  · have owned := arranged.separate.owningHead_of_center index centered
    rw [headIndex?, active_after, Option.bind_some, heads_eq, owned]
    rfl

theorem Arranged.exists_owner (arranged : w.Arranged found) :
    ∃ current : Fin w.heads.length,
      owningHead found.frame w.heads = .ok current ∧ w.headIndex? = some current.val := by
  obtain ⟨head, member, contains⟩ := arranged.onHead
  obtain ⟨current, owned⟩ := exists_owningHead arranged.separate.several member contains
  exact ⟨current, owned, headIndex?_eq_some arranged.active owned⟩

theorem Arranged.run_of_target_eq (arranged : w.Arranged found) {current : Fin w.heads.length}
    (owned : owningHead found.frame w.heads = .ok current)
    (within : destination.IsWithin w.heads.length)
    (same : destination.target w.heads.length current = current) (honorStruts : Bool) :
    (w.run honorStruts (.switch destination)).1.failure = none ∧
      (w.run honorStruts (.switch destination)).2 = w := by
  obtain ⟨window, active, known⟩ := activeWindow?_eq_some_iff.mp arranged.active
  have planned := arranged.result_plan owned active known within honorStruts
  rw [if_pos same] at planned
  simp [run, planned]

theorem Arranged.run_of_target_ne (arranged : w.Arranged found) {current : Fin w.heads.length}
    (owned : owningHead found.frame w.heads = .ok current) {window : WindowId}
    (active : w.active = some window) (known : w.find? window = some found)
    (within : destination.IsWithin w.heads.length)
    (other : destination.target w.heads.length current ≠ current) (honorStruts : Bool) :
    (w.run honorStruts (.switch destination)).1.failure = none ∧
      w.Reframed window
        (centeredFrame
          (w.heads.get ⟨destination.target w.heads.length current,
            Destination.target_lt within current.isLt⟩) found.frame)
        (w.run honorStruts (.switch destination)).2 := by
  have planned := arranged.result_plan owned active known within honorStruts
  rw [if_neg other] at planned
  set head := w.heads.get ⟨destination.target w.heads.length current,
    Destination.target_lt within current.isLt⟩
  have performed : w.perform (.moveResize window (centeredOn head found.frame found.extents)) =
      .ok (w.carryOut (.moveResize window (centeredOn head found.frame found.extents))) :=
    arranged.reliable.perform_eq known
  have effect := ManagedWindow.moveResize_centeredOn head arranged.decorated arranged.fits
  have reframed := reframed_modify known effect
  simp only [run, planned, performed]
  exact ⟨trivial, reframed⟩

/-- A command to switch does what it is for, and it keeps a workspace arranged. -/
theorem Arranged.step (arranged : w.Arranged found)
    (within : destination.IsWithin w.heads.length) (honorStruts : Bool) :
    ∃ (current : Fin w.heads.length) (moved : ManagedWindow),
      w.Switches honorStruts destination current found moved ∧
      (w.run honorStruts (.switch destination)).2.Arranged moved ∧
      (w.run honorStruts (.switch destination)).2.heads = w.heads := by
  obtain ⟨current, owned, head_before⟩ := arranged.exists_owner
  -- Only a command that moves the window makes a request.
  by_cases same : destination.target w.heads.length current = current
  · obtain ⟨succeeds, unchanged⟩ := arranged.run_of_target_eq owned within same honorStruts
    refine ⟨current, found, ?_, ?_, ?_⟩
    · constructor
      · exact succeeds
      · exact arranged.active
      · rw [unchanged]
        exact arranged.active
      · exact head_before
      · rw [unchanged, same]
        exact head_before
      · rfl
      · rfl
      · exact fun _ => unchanged
      · exact fun moves => absurd same moves
    · rw [unchanged]
      exact arranged
    · rw [unchanged]
  · obtain ⟨window, active, known⟩ := activeWindow?_eq_some_iff.mp arranged.active
    have inRange := Destination.target_lt within current.isLt
    obtain ⟨succeeds, reframed⟩ :=
      arranged.run_of_target_ne owned active known within same honorStruts
    obtain ⟨arranged_after, heads_eq, head_after⟩ :=
      arranged.reframe ⟨_, inRange⟩ active known reframed
    refine ⟨current, _, ?_, arranged_after, heads_eq⟩
    constructor
    · exact succeeds
    · exact arranged.active
    · exact arranged_after.active
    · exact head_before
    · exact head_after
    · rfl
    · rfl
    · exact fun stays => absurd stays same
    · intro _
      have large := arranged.separate.large _ (List.getElem_mem inRange)
      have centered := center_centeredFrame w.heads[destination.target _ current] found.frame
      refine ⟨_, List.getElem?_eq_getElem inRange, centered, ?_⟩
      exact Rect.hasEvenMargins_of_center (by omega) (by omega) centered

end Steps

end Workspace

end WindowPlacement
