import WindowPlacement.Proofs.ActiveHead
import WindowPlacement.Proofs.Mentions
import WindowPlacement.Proofs.PlacedFrame

/-!
# Repeating a placement

A placement whose expressions mention nothing that it changes asks for the same rectangle when it
is run again, as long as the window is still on the same head: the usable area is the same, and a
dimension that the placement leaves out has come back to the value that it had.  To ask for the
same rectangle again changes nothing.
-/

namespace WindowPlacement

/-- A dimension of a window can be asked for: the number itself, and for a size also the one
without the decorations, is a 32-bit coordinate. -/
def ManagedWindow.CanKeep (found : ManagedWindow) : Dimension → Prop
  | .x => IsCoordinate found.frame.x
  | .y => IsCoordinate found.frame.y
  | .width =>
    IsCoordinate found.frame.width ∧ IsCoordinate (found.frame.width - found.extents.horizontal)
  | .height =>
    IsCoordinate found.frame.height ∧ IsCoordinate (found.frame.height - found.extents.vertical)

instance (found : ManagedWindow) : (dimension : Dimension) → Decidable (found.CanKeep dimension)
  | .x | .y => inferInstanceAs (Decidable (IsCoordinate _))
  | .width | .height => inferInstanceAs (Decidable (_ ∧ _))

theorem ManagedWindow.moveResize_moveResize (found : ManagedWindow) (target : Rect) :
    (found.moveResize target).moveResize target = found.moveResize target :=
  rfl

namespace Placement

variable {p : Placement} {found : ManagedWindow} {area target : Rect}

theorem get_moveResize_of_unset (aimed : p.target found.frame area found.extents = .ok target)
    (decorated : found.extents.Nonneg) {dimension : Dimension} (unset : p.get dimension = none)
    (keeps : found.CanKeep dimension) :
    (found.moveResize target).frame.get dimension = found.frame.get dimension := by
  obtain ⟨x, y, width, height, given, rfl⟩ := target_eq_ok_iff.mp aimed
  have prescribed := given.prescribes dimension
  rw [Prescribes, unset] at prescribed
  -- A corner is taken to the area and back, a size loses the decorations and gets them again.
  cases dimension with
  | x =>
    have corner : x + area.x = found.frame.x := by
      simp only [Dimensions.get, Surroundings.current, Surroundings.ofWindow] at prescribed
      omega
    simp only [ManagedWindow.moveResize, requestIn, Rect.get, corner]
    exact saturate_eq_self keeps.1 keeps.2
  | y =>
    have corner : y + area.y = found.frame.y := by
      simp only [Dimensions.get, Surroundings.current, Surroundings.ofWindow] at prescribed
      omega
    simp only [ManagedWindow.moveResize, requestIn, Rect.get, corner]
    exact saturate_eq_self keeps.1 keeps.2
  | width =>
    obtain rfl : width = found.frame.width := prescribed
    obtain ⟨whole, client⟩ := keeps
    simp only [ManagedWindow.moveResize, requestIn, Rect.get,
      saturate_eq_self client.1 client.2]
    exact regrown_eq decorated.left decorated.right whole client
  | height =>
    obtain rfl : height = found.frame.height := prescribed
    obtain ⟨whole, client⟩ := keeps
    simp only [ManagedWindow.moveResize, requestIn, Rect.get,
      saturate_eq_self client.1 client.2]
    exact regrown_eq decorated.top decorated.bottom whole client

/-- An independent placement has the same target for a window that it has already placed. -/
theorem IsIndependent.target_again (independent : p.IsIndependent)
    (aimed : p.target found.frame area found.extents = .ok target)
    (decorated : found.extents.Nonneg)
    (keeps : ∀ dimension, p.get dimension = none → found.CanKeep dimension) :
    p.target (found.moveResize target).frame area found.extents = .ok target := by
  rw [← aimed]
  refine target_congr (independent.valueOf_congr rfl rfl fun dimension unset => ?_)
  have kept := get_moveResize_of_unset aimed decorated unset (keeps dimension unset)
  cases dimension <;>
    simp only [Rect.get] at kept <;>
    simp only [Surroundings.current, Surroundings.ofWindow, kept]

end Placement

namespace Workspace

section Runs

variable {w after : Workspace} {honorStruts : Bool} {placement : Placement}

theorem run_moveResize_eq_iff :
    (w.run honorStruts (.moveResize placement)).1.failure = none ∧
        (w.run honorStruts (.moveResize placement)).2 = after ↔
      ∃ request, (w.desktop.planMoveResize honorStruts placement).result = .ok request ∧
        w.perform request = .ok after := by
  constructor
  · rintro ⟨succeeded, rfl⟩
    rcases w.run_cases honorStruts (.moveResize placement) with
      ⟨reason, ended, ran⟩ | ⟨ended, ran⟩ | ⟨request, refusal, ended, refused, ran⟩ |
        ⟨request, ended, performed, ran⟩
    · simp [ran] at succeeded
    · obtain ⟨request, -, impossible⟩ := Inquiry.result_map_eq_ok_iff.mp ended
      simp at impossible
    · simp [ran] at succeeded
    · obtain ⟨request', asked, same⟩ := Inquiry.result_map_eq_ok_iff.mp ended
      obtain rfl := Option.some.inj same
      exact ⟨request', asked, by rw [performed, ran]⟩
  · rintro ⟨request, asked, performed⟩
    have ended : (w.desktop.plan honorStruts (.moveResize placement)).result = .ok (some request) :=
      Inquiry.result_map_eq_ok_iff.mpr ⟨request, asked, rfl⟩
    simp [run, ended, performed]

theorem carryOut_moveResize_twice (w : Workspace) (window : WindowId) (target : Rect) :
    (w.carryOut (.moveResize window target)).carryOut (.moveResize window target) =
      w.carryOut (.moveResize window target) := by
  simp only [carryOut, modify, List.map_map]
  congr 1
  refine List.map_congr_left fun candidate _ => ?_
  by_cases about : candidate.id = window
  · have kept : (candidate.moveResize target).id = window := about
    simp only [Function.comp_apply, if_pos about, if_pos kept,
      ManagedWindow.moveResize_moveResize]
  · simp only [Function.comp_apply, if_neg about]

theorem find?_carryOut_moveResize {window : WindowId} {target : Rect} {found : ManagedWindow}
    (known : w.find? window = some found) :
    (w.carryOut (.moveResize window target)).find? window = some (found.moveResize target) := by
  rw [carryOut, find?_modify, known, Option.map_some]
  exact fun _ => rfl

/-- A request to move a window that is carried out can be carried out once more, and then
changes nothing. -/
theorem perform_again {window : WindowId} {target : Rect}
    (performed : w.perform (.moveResize window target) = .ok after) :
    after = w.carryOut (.moveResize window target) ∧
      after.perform (.moveResize window target) = .ok after := by
  obtain ⟨sound, ⟨found, known⟩, rfl⟩ := perform_eq_ok_iff.mp performed
  refine ⟨rfl, perform_eq_ok_iff.mpr ⟨sound, ⟨_, find?_carryOut_moveResize known⟩, ?_⟩⟩
  exact (w.carryOut_moveResize_twice window target).symm

end Runs

section Moved

variable {w : Workspace} {window : WindowId} {target : Rect}

/-- That a window has been moved only shows in the answers about frames. -/
theorem desktop_carryOut_moveResize (w : Workspace) (window : WindowId) (target : Rect) :
    let moved := w.carryOut (.moveResize window target)
    moved.desktop = { w.desktop with frame := moved.desktop.frame } := by
  intro moved
  have listed : moved.windows.map ManagedWindow.id = w.windows.map ManagedWindow.id :=
    w.ids_modify window (fun found => found.moveResize target) fun _ => rfl
  have told {α : Type} {answer : ManagedWindow → α} (asked : WindowId)
      (blind : ∀ found : ManagedWindow, answer (found.moveResize target) = answer found) :
      moved.about asked answer = w.about asked answer :=
    w.about_modify window (fun found => found.moveResize target) (fun _ => rfl) fun _ => blind
  rw [Desktop.mk.injEq]
  refine ⟨rfl, rfl, rfl, ?_, rfl, rfl, ?_, ?_, ?_⟩
  · exact congrArg (fun clients => w.guarded .clientList (.ok clients)) listed
  · exact funext fun asked => congrArg (w.guarded (.frameExtents asked)) (told asked fun _ => rfl)
  · exact funext fun asked => congrArg (w.guarded (.title asked)) (told asked fun _ => rfl)
  · exact funext fun asked => congrArg (w.guarded (.strut asked)) (told asked fun _ => rfl)

theorem frame_carryOut_moveResize {frame : Rect} {found : ManagedWindow}
    (framed : w.desktop.frame window = .ok frame) (known : w.find? window = some found) :
    (w.carryOut (.moveResize window target)).desktop.frame window =
      .ok (found.moveResize target).frame := by
  have told : (w.carryOut (.moveResize window target)).about window ManagedWindow.frame =
      .ok (found.moveResize target).frame := by
    rw [about, find?_carryOut_moveResize known]
  rw [← told]
  exact guarded_eq_of_answer framed _

/-- A window that has been moved has the same usable head if it is still on the same head. -/
theorem result_usableHead_moved {honorStruts : Bool} {frame frame' area : Rect}
    (active : w.desktop.activeWindow = .ok window) (framed : w.desktop.frame window = .ok frame)
    (headed : (w.desktop.usableHead honorStruts frame).result = .ok area) :
    let moved := w.carryOut (.moveResize window target)
    moved.desktop.frame window = .ok frame' → moved.headIndex? = w.headIndex? →
      (moved.desktop.usableHead honorStruts frame').result = .ok area := by
  intro moved framed' stays
  obtain ⟨head, onHead⟩ : ∃ head, w.desktop.ownerOf frame = .ok head := by
    obtain ⟨heads, index, answered, owned, -⟩ := Desktop.result_usableHead_eq_ok_iff.mp headed
    exact ⟨heads.get index, Desktop.ownerOf_eq_ok_iff.mpr ⟨heads, index, answered, owned, rfl⟩⟩
  have owner : w.owner? = some head := owner?_of_ownerOf active framed onHead
  -- The heads have not changed, so the same index is the same rectangle.
  have owner' : moved.owner? = some head := by
    rw [← owner, owner?_eq_bind, owner?_eq_bind, stays]
    rfl
  have same : w.desktop.ownerOf frame = moved.desktop.ownerOf frame' := by
    rw [ownerOf_of_owner? active framed owner,
      ownerOf_of_owner? (w := moved) active framed' owner']
    rfl
  have struts : w.desktop.strutSet = moved.desktop.strutSet := by
    rw [show moved.desktop = _ from w.desktop_carryOut_moveResize window target]
    rfl
  rw [← headed]
  exact (Desktop.result_usableHead_congr same (fun _ => rfl) (fun _ => struts)
    fun _ => Desktop.overflows_congr rfl rfl struts).symm

theorem result_planMoveResize_again {honorStruts : Bool} {placement : Placement}
    (independent : placement.IsIndependent)
    (decorated : ∀ window ∈ w.windows, window.extents.Nonneg)
    (keeps : ∀ found, w.activeWindow? = some found →
      ∀ dimension, placement.get dimension = none → found.CanKeep dimension)
    (asked : (w.desktop.planMoveResize honorStruts placement).result =
      .ok (.moveResize window target))
    (stays : (w.carryOut (.moveResize window target)).headIndex? = w.headIndex?) :
    ((w.carryOut (.moveResize window target)).desktop.planMoveResize honorStruts
      placement).result = .ok (.moveResize window target) := by
  obtain ⟨_, frame, area, extents, _, active, framed, headed, surrounded, aimed, same⟩ :=
    Desktop.result_planMoveResize_eq_ok_iff.mp asked
  obtain ⟨rfl, rfl⟩ := Request.moveResize.inj same
  obtain ⟨found, known, rfl⟩ := find?_of_answer framed
  obtain ⟨found', known', rfl⟩ := find?_of_answer surrounded
  obtain rfl : found = found' := Option.some.inj (known.symm.trans known')
  have nonneg : found.extents.Nonneg := decorated found (List.mem_of_find?_eq_some known)
  set moved := w.carryOut (.moveResize window target)
  have answers : moved.desktop = { w.desktop with frame := moved.desktop.frame } :=
    w.desktop_carryOut_moveResize window target
  have framed' : moved.desktop.frame window = .ok (found.moveResize target).frame :=
    frame_carryOut_moveResize framed known
  have headed' : (moved.desktop.usableHead honorStruts (found.moveResize target).frame).result =
      .ok area :=
    result_usableHead_moved active framed headed framed' stays
  refine Desktop.result_planMoveResize_eq_ok_iff.mpr ⟨window, (found.moveResize target).frame, area,
    found.extents, target, active, framed', headed', ?_, ?_, rfl⟩
  · rw [answers]
    exact surrounded
  · exact independent.target_again aimed nonneg (keeps found (activeWindow?_of_answer active known))

end Moved

/-- To run an independent placement that has succeeded once more changes nothing, provided that
the active window is still on the same head. -/
theorem repeated_placement_changes_nothing (w : Workspace) (honorStruts : Bool)
    (placement : Placement) (independent : placement.IsIndependent)
    (decorated : ∀ window ∈ w.windows, window.extents.Nonneg)
    (keeps : ∀ found, w.activeWindow? = some found →
      ∀ dimension, placement.get dimension = none → found.CanKeep dimension)
    (succeeded : (w.run honorStruts (.moveResize placement)).1.failure = none) :
    let after := (w.run honorStruts (.moveResize placement)).2
    (w.heads.length = 1 → after.headIndex? = w.headIndex?) ∧
      (after.headIndex? = w.headIndex? →
        (after.run honorStruts (.moveResize placement)).1.failure = none ∧
          (after.run honorStruts (.moveResize placement)).2 = after) := by
  intro after
  obtain ⟨request, asked, performed⟩ := run_moveResize_eq_iff.mp ⟨succeeded, rfl⟩
  obtain ⟨window, frame, _, _, target, active, framed, -, -, -, rfl⟩ :=
    Desktop.result_planMoveResize_eq_ok_iff.mp asked
  obtain ⟨effect, performed_again⟩ := perform_again performed
  have moved : after = w.carryOut (.moveResize window target) := effect
  obtain ⟨found, known, rfl⟩ := find?_of_answer framed
  constructor
  · intro single
    rw [moved, headIndex?_of_single_head single (activeWindow?_of_answer active known)]
    exact headIndex?_of_single_head single
      (activeWindow?_of_answer active (find?_carryOut_moveResize known))
  · intro stays
    refine run_moveResize_eq_iff.mpr ⟨.moveResize window target, ?_, performed_again⟩
    rw [moved] at stays ⊢
    exact result_planMoveResize_again independent decorated keeps asked stays

theorem isIndependent_centeredBand : centeredBand.IsIndependent := by
  intro dimension e chosen changed mentioned
  cases dimension <;> cases chosen <;> cases changed <;>
    first | rfl | exact absurd mentioned (by decide)

/-- The editor is centered on the second head and stays on it, so it can be centered again. -/
theorem withPanel_repeated_placement :
    centeredBand.IsIndependent ∧ (∀ window ∈ withPanel.windows, window.extents.Nonneg) ∧
      (∀ found, withPanel.activeWindow? = some found →
        ∀ dimension, centeredBand.get dimension = none → found.CanKeep dimension) ∧
      (withPanel.run true (.moveResize centeredBand)).1.failure = none ∧
      let after := (withPanel.run true (.moveResize centeredBand)).2
      (after.find? 1).map ManagedWindow.frame = some ⟨3120, 200, 800, 154⟩ ∧
        withPanel.headIndex? = some 1 ∧ after.headIndex? = some 1 ∧
        (after.run true (.moveResize centeredBand)).1.failure = none ∧
        (after.run true (.moveResize centeredBand)).2 = after := by
  have keeps : ∀ found, withPanel.activeWindow? = some found →
      ∀ dimension, centeredBand.get dimension = none → found.CanKeep dimension := by
    intro found active dimension unset
    obtain rfl := Option.some.inj active
    cases dimension with
    | x => cases unset
    | y => decide
    | width => decide
    | height => cases unset
  have repeated := repeated_placement_changes_nothing withPanel true centeredBand
    isIndependent_centeredBand (by decide) keeps rfl
  exact ⟨isIndependent_centeredBand, by decide, keeps, rfl, rfl, rfl, rfl, repeated.2 rfl⟩

end Workspace

end WindowPlacement
