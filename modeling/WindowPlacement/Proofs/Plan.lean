import WindowPlacement.Proofs.Inquiry
import WindowPlacement.Proofs.UsableArea

/-!
# What plans ask and what they end with

For the plan of each command there are two laws: it heeds the failures of the desktop, and
it ends with a request exactly when the answers of the desktop make up the request.
-/

namespace WindowPlacement

/-- A failure of the question does not end the command. -/
def Command.Tolerates : Command → Query → Prop
  | .moveResize _, .strut _ => True
  | .focus _, .title _ => True
  | _, _ => False

namespace Desktop

variable {Failure : Type} {d : Desktop Failure} {tolerated : Query → Prop}

def strut? (d : Desktop Failure) (window : WindowId) : Option Strut :=
  match d.strut window with
  | .ok strut => strut
  | .error _ => none

section Heeds

open Inquiry

theorem heeds_struts (tolerable : ∀ window, tolerated (.strut window))
    (windows : List WindowId) : (d.struts windows).Heeds d tolerated := by
  induction windows with
  | nil => exact heeds_pure _
  | cons window rest ih =>
    refine (heeds_tryAsk (tolerable window)).bind fun answer _ => ih.bind fun struts _ => ?_
    rcases answer with _ | _ | strut <;> exact heeds_pure _

theorem heeds_usableHead (tolerable : ∀ window, tolerated (.strut window))
    (strictHeads : ¬ tolerated .heads) (strictRoot : ¬ tolerated .root)
    (strictList : ¬ tolerated .clientList) (honorStruts : Bool) (window : Rect) :
    (d.usableHead honorStruts window).Heeds d tolerated := by
  refine (heeds_ask strictHeads fun _ => .rfl).bind fun heads _ => ?_
  refine (heeds_ofExcept_mapError (by simp)).bind fun index _ => ?_
  cases honorStruts with
  | false => exact heeds_pure _
  | true =>
    exact (heeds_ask strictRoot fun _ => .rfl).bind fun root _ =>
      (heeds_ask strictList fun _ => .rfl).bind fun clients _ =>
        (heeds_struts tolerable clients).bind fun struts _ =>
          (heeds_ofExcept_mapError (by simp)).bind fun areas _ => heeds_pure _

theorem heeds_noteUnbounded (values : List (Expression × Float)) :
    (noteUnbounded values).Heeds d tolerated := by
  induction values with
  | nil => exact heeds_pure _
  | cons value rest ih => exact (heeds_note _).bind fun _ _ => ih

theorem heeds_planMoveResize (honorStruts : Bool) (placement : Placement) :
    (d.planMoveResize honorStruts placement).Heeds d
      (Command.moveResize placement).Tolerates := by
  refine (heeds_note _).bind fun _ _ => ?_
  refine (heeds_ask not_false fun _ => .rfl).bind fun window _ => ?_
  refine (heeds_ask not_false fun _ => .rfl).bind fun frame _ => ?_
  refine (heeds_usableHead (fun _ => trivial) not_false not_false not_false honorStruts
    frame).bind fun head _ => ?_
  refine (heeds_ask not_false fun _ => .rfl).bind fun extents _ => ?_
  refine (heeds_noteUnbounded _).bind fun _ _ => ?_
  refine (heeds_ofExcept_mapError (by simp)).bind fun target _ => ?_
  exact (heeds_note _).bind fun _ _ => heeds_pure _

theorem heeds_findTitle (pattern : TitlePattern) (tolerable : ∀ window, tolerated (.title window))
    (windows : List WindowId) : (d.findTitle pattern windows).Heeds d tolerated := by
  induction windows with
  | nil => exact heeds_pure _
  | cons window rest ih =>
    refine (heeds_tryAsk (tolerable window)).bind fun answer _ => ?_
    rcases answer with _ | _ | title
    · exact ih
    · exact ih
    · dsimp only
      split
      · exact heeds_pure _
      · exact ih

theorem heeds_planFocus (pattern : TitlePattern) :
    (d.planFocus pattern).Heeds d (Command.focus pattern).Tolerates := by
  refine (heeds_ask not_false fun _ => .rfl).bind fun stacking _ => ?_
  refine (heeds_findTitle pattern (fun _ => trivial) _).bind fun found _ => ?_
  rcases found with _ | ⟨window, title⟩
  · exact heeds_giveUp (by simp)
  · exact (heeds_note _).bind fun _ _ => heeds_pure _

theorem heeds_planToggle (state : WindowState) :
    (d.planToggle state).Heeds d (Command.toggle state).Tolerates :=
  (heeds_ask not_false fun _ => .rfl).bind fun _ _ =>
    (heeds_note _).bind fun _ _ => heeds_pure _

theorem heeds_planSwitch (destination : Destination) :
    (d.planSwitch destination).Heeds d (Command.switch destination).Tolerates := by
  refine (heeds_ask not_false fun _ => .rfl).bind fun heads _ => ?_
  split
  · exact heeds_pure _
  refine (heeds_ask not_false fun _ => .rfl).bind fun window _ => ?_
  refine (heeds_ask not_false fun _ => .rfl).bind fun frame _ => ?_
  refine (heeds_ofExcept_mapError (by simp)).bind fun current _ => ?_
  refine (heeds_ofExcept fun failure => ?_).bind fun index _ => ?_
  · unfold Destination.resolve
    cases destination with
    | head index => dsimp only; split <;> simp
    | neighbour direction => simp
  split
  · exact heeds_pure _
  · exact (heeds_ask not_false fun _ => .rfl).bind fun extents _ =>
      (heeds_note _).bind fun _ _ => heeds_pure _

/-- The plan of every command stops at the first question that fails and blames it, except
for questions whose failure the command tolerates. -/
theorem heeds_plan (honorStruts : Bool) (command : Command) :
    (d.plan honorStruts command).Heeds d command.Tolerates := by
  cases command with
  | moveResize placement => exact (heeds_planMoveResize honorStruts placement).map _
  | focus pattern => exact (heeds_planFocus pattern).map _
  | toggle state => exact (heeds_planToggle state).map _
  | switch destination => exact heeds_planSwitch destination

end Heeds

section Results

open Inquiry

/-- Reading struts always succeeds, with the struts that can be read. -/
theorem result_struts (windows : List WindowId) :
    (d.struts windows).result = .ok (windows.filterMap d.strut?) := by
  induction windows with
  | nil => rfl
  | cons window rest ih =>
    refine result_bind_eq_ok_iff.mpr ⟨_, result_tryAsk _ _, result_bind_eq_ok_iff.mpr ⟨_, ih, ?_⟩⟩
    rw [List.filterMap_cons, strut?]
    rcases d.strut window with _ | _ | strut <;> rfl

theorem result_usableHead_eq_ok_iff {honorStruts : Bool} {window area : Rect} :
    (d.usableHead honorStruts window).result = .ok area ↔
      ∃ heads index, d.heads = .ok heads ∧ owningHead window heads = .ok index ∧
        if honorStruts then
          ∃ root clients areas, d.root = .ok root ∧ d.clientList = .ok clients ∧
            usableAreas root (clients.filterMap d.strut?) heads = .ok areas ∧
              areas[index.val]? = some area
        else
          area = heads.get index := by
  simp only [usableHead, result_bind_eq_ok_iff, result_ask_eq_ok_iff, result_ofExcept,
    mapError_eq_ok_iff]
  refine exists_congr fun heads => ?_
  rw [← exists_and_left]
  refine exists_congr fun index => and_congr_right fun _ => and_congr_right fun _ => ?_
  cases honorStruts with
  | false => simp [eq_comm]
  | true =>
    simp only [if_true, result_bind_eq_ok_iff, result_ask_eq_ok_iff, result_struts,
      result_ofExcept, mapError_eq_ok_iff, result_pure, Except.ok.injEq, exists_eq_left']
    simp only [← exists_and_left]
    refine exists_congr fun root => exists_congr fun clients => exists_congr fun areas => ?_
    refine and_congr_right fun _ => and_congr_right fun _ => and_congr_right fun left => ?_
    rw [getElem?_eq_some_getD_usableAreas left index, Option.some.injEq]

theorem result_noteUnbounded (values : List (Expression × Float)) :
    (noteUnbounded values : Inquiry Failure Unit).result = .ok () := by
  induction values with
  | nil => rfl
  | cons value rest ih => exact result_bind_eq_ok_iff.mpr ⟨(), rfl, ih⟩

/-- Placing the active window ends with the request for the target of the placement. -/
theorem result_planMoveResize_eq_ok_iff {honorStruts : Bool} {placement : Placement}
    {request : Request} :
    (d.planMoveResize honorStruts placement).result = .ok request ↔
      ∃ window frame head extents target, d.activeWindow = .ok window ∧
        d.frame window = .ok frame ∧ (d.usableHead honorStruts frame).result = .ok head ∧
        d.frameExtents window = .ok extents ∧
        placement.target frame head extents = .ok target ∧
        request = .moveResize window target := by
  simp only [planMoveResize, result_bind_eq_ok_iff, result_ask_eq_ok_iff, result_ofExcept,
    mapError_eq_ok_iff, result_noteUnbounded, result_note, result_pure]
  simp [eq_comm]

theorem result_planFocus_eq_ok_iff {pattern : TitlePattern} {request : Request} :
    (d.planFocus pattern).result = .ok request ↔
      ∃ stacking window title, d.stackingOrder = .ok stacking ∧
        (d.findTitle pattern stacking.reverse).result = .ok (some (window, title)) ∧
        request = .activate window := by
  simp only [planFocus, result_bind_eq_ok_iff, result_ask_eq_ok_iff]
  constructor
  · rintro ⟨stacking, answered, found, searched, ended⟩
    rcases found with _ | ⟨window, title⟩
    · simp at ended
    · obtain ⟨-, -, ended⟩ := result_bind_eq_ok_iff.mp ended
      exact ⟨stacking, window, title, answered, searched, (Except.ok.inj ended).symm⟩
  · rintro ⟨stacking, window, title, answered, searched, rfl⟩
    exact ⟨stacking, answered, _, searched, result_bind_eq_ok_iff.mpr ⟨(), rfl, rfl⟩⟩

theorem result_planToggle_eq_ok_iff {state : WindowState} {request : Request} :
    (d.planToggle state).result = .ok request ↔
      ∃ window, d.activeWindow = .ok window ∧ request = .toggle window state := by
  simp only [planToggle, result_bind_eq_ok_iff, result_ask_eq_ok_iff, result_note, result_pure]
  simp [eq_comm]

/-- Moving the active window to another head ends without a request iff there is only one
head or the window is already there. -/
theorem result_planSwitch_eq_ok_iff {destination : Destination} {outcome : Option Request} :
    (d.planSwitch destination).result = .ok outcome ↔
      ∃ heads, d.heads = .ok heads ∧
        if heads.length < 2 then
          outcome = none
        else
          ∃ window frame, d.activeWindow = .ok window ∧ d.frame window = .ok frame ∧
            ∃ current index, owningHead frame heads = .ok current ∧
              (destination.resolve current : Except (RunError Failure) _) = .ok index ∧
              if index = current then
                outcome = none
              else
                ∃ extents, d.frameExtents window = .ok extents ∧ outcome =
                  some (.moveResize window (centeredOn (heads.get index) frame extents)) := by
  simp only [planSwitch, result_bind_eq_ok_iff, result_ask_eq_ok_iff]
  refine exists_congr fun heads => and_congr_right fun _ => ?_
  split
  · simp [eq_comm]
  simp only [result_bind_eq_ok_iff, result_ask_eq_ok_iff, result_ofExcept, mapError_eq_ok_iff]
  constructor
  · rintro ⟨window, active, frame, framed, current, owned, index, resolved, ended⟩
    refine ⟨window, frame, active, framed, current, index, owned, resolved, ?_⟩
    split at ended
    · rw [if_pos ‹_›]
      exact (Except.ok.inj ended).symm
    · rw [if_neg ‹_›]
      obtain ⟨extents, known, ended⟩ := result_bind_eq_ok_iff.mp ended
      obtain ⟨-, -, ended⟩ := result_bind_eq_ok_iff.mp ended
      exact ⟨extents, result_ask_eq_ok_iff.mp known, (Except.ok.inj ended).symm⟩
  · rintro ⟨window, frame, active, framed, current, index, owned, resolved, ended⟩
    refine ⟨window, active, frame, framed, current, owned, index, resolved, ?_⟩
    split at ended
    · rw [if_pos ‹_›, ended]
      rfl
    · rw [if_neg ‹_›]
      obtain ⟨extents, known, rfl⟩ := ended
      exact result_bind_eq_ok_iff.mpr ⟨extents, result_ask_eq_ok_iff.mpr known,
        result_bind_eq_ok_iff.mpr ⟨(), rfl, rfl⟩⟩

end Results

end Desktop

end WindowPlacement
