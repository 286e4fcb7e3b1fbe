import WindowPlacement.Proofs.PlacementView
import WindowPlacement.Proofs.Switching

/-!
# The head of the active window

The head that the active window is on, as its index among the heads and as its rectangle.  Where
a placement gets as far as asking for the heads, it is this rectangle that it takes struts off.
-/

namespace WindowPlacement.Workspace

variable {w : Workspace} {window : WindowId} {found : ManagedWindow} {frame head : Rect}

theorem activeWindow?_of_answer (active : w.desktop.activeWindow = .ok window)
    (known : w.find? window = some found) : w.activeWindow? = some found :=
  activeWindow?_eq_some_iff.mpr ⟨window, active_eq_of_answer active, known⟩

def owner? (w : Workspace) : Option Rect :=
  w.activeWindow?.bind fun found => (owningHead found.frame w.heads).toOption.map w.heads.get

theorem owner?_of_answer (active : w.desktop.activeWindow = .ok window)
    (framed : w.desktop.frame window = .ok frame) :
    w.owner? = (owningHead frame w.heads).toOption.map w.heads.get := by
  obtain ⟨found, known, rfl⟩ := find?_of_answer framed
  rw [owner?, activeWindow?_of_answer active known, Option.bind_some]

theorem ownerOf_of_owner? (active : w.desktop.activeWindow = .ok window)
    (framed : w.desktop.frame window = .ok frame) (owner : w.owner? = some head) :
    w.desktop.ownerOf frame = (w.guarded .heads (.ok head)).mapError .desktop := by
  rw [owner?_of_answer active framed] at owner
  obtain ⟨index, owned, rfl⟩ := Option.map_eq_some_iff.mp owner
  have onHead : owningHead frame w.heads = .ok index := by
    cases found : owningHead frame w.heads with
    | error failure => simp [found, Except.toOption] at owned
    | ok index' => simpa [found, Except.toOption] using owned
  have answer : w.desktop.heads = w.guarded .heads (.ok w.heads) := rfl
  rw [Desktop.ownerOf, answer, guarded, guarded]
  by_cases faulty : w.isFaulty Query.heads.operation Query.heads.window? = true
  · rw [if_pos faulty, if_pos faulty]
    rfl
  · rw [if_neg faulty, if_neg faulty]
    simp only [onHead]
    rfl

theorem owner?_of_ownerOf (active : w.desktop.activeWindow = .ok window)
    (framed : w.desktop.frame window = .ok frame) (owner : w.desktop.ownerOf frame = .ok head) :
    w.owner? = some head := by
  rw [owner?_of_answer active framed]
  rw [Desktop.ownerOf] at owner
  cases answered : w.desktop.heads with
  | error failure => simp [answered] at owner
  | ok heads =>
    obtain rfl := heads_eq_of_answer answered
    cases found : owningHead frame w.heads with
    | error failure => simp [answered, found] at owner
    | ok index =>
      simp only [answered, found, Except.ok.injEq] at owner
      rw [← owner]
      rfl

theorem owner?_eq_bind (w : Workspace) :
    w.owner? = w.headIndex?.bind fun index => w.heads[index]? := by
  rw [owner?, headIndex?]
  cases w.activeWindow? with
  | none => rfl
  | some found =>
    cases owned : owningHead found.frame w.heads with
    | error failure => simp [owned, Except.toOption]
    | ok index => simp [owned, Except.toOption]

theorem headIndex?_of_single_head (single : w.heads.length = 1)
    (active : w.activeWindow? = some found) : w.headIndex? = some 0 := by
  rw [headIndex?, active, Option.bind_some]
  generalize w.heads = heads at single
  obtain ⟨head, rfl⟩ := List.length_eq_one_iff.mp single
  rfl

end WindowPlacement.Workspace
