import Mathlib.Data.List.Nodup
import WindowPlacement.Proofs.Calls
import WindowPlacement.Proofs.PlacementView
import WindowPlacement.Proofs.ReservedSpace

/-!
# The order of clients and struts

The order in which a desktop lists its windows decides in which order struts are read and taken
off.  Neither the usable area of a head nor anything that a placement does depends on it.
-/

namespace WindowPlacement

namespace Desktop

variable {Failure : Type} {d : Desktop Failure} {honorStruts : Bool}

theorem looksLike_of_strutSet_eq {clientList : Except Failure (List WindowId)}
    (same : d.strutSet = { d with clientList := clientList }.strutSet) :
    d.LooksLike honorStruts { d with clientList := clientList } where
  active := rfl
  frame _ _ := rfl
  extents _ _ := rfl
  owner _ _ _ _ := rfl
  root _ := rfl
  struts _ := same
  overflow _ := overflows_congr rfl rfl same

theorem strutSet_of_perm {clients reordered : List WindowId} (listed : d.clientList = .ok clients)
    (order : reordered.Perm clients) :
    d.strutSet = { d with clientList := .ok reordered }.strutSet := by
  simp only [strutSet, listed, Except.map, order.mem_iff]

end Desktop

namespace Workspace

theorem find?_eq_some_iff {w : Workspace} (distinct : (w.windows.map ManagedWindow.id).Nodup)
    {window : WindowId} {found : ManagedWindow} :
    w.find? window = some found ↔ found ∈ w.windows ∧ found.id = window := by
  constructor
  · intro known
    exact ⟨List.mem_of_find?_eq_some known, by simpa using List.find?_some known⟩
  · rintro ⟨member, rfl⟩
    cases known : w.find? found.id with
    | none => simpa using List.find?_eq_none.mp known found member
    | some first =>
      have same : first.id = found.id := by simpa using List.find?_some known
      rw [List.inj_on_of_nodup_map distinct (List.mem_of_find?_eq_some known) member same]

/-- A workspace lists its windows in another order than a second one, and all else about the two
is the same. -/
structure Reorders (w other : Workspace) : Prop where
  elsewhere : other = { w with windows := other.windows }
  listed : (other.windows.map ManagedWindow.id).Perm (w.windows.map ManagedWindow.id)
  found : ∀ window, other.find? window = w.find? window

section Reorders

variable {w other : Workspace}

theorem reorders_of_perm {windows : List ManagedWindow}
    (distinct : (w.windows.map ManagedWindow.id).Nodup) (order : windows.Perm w.windows) :
    w.Reorders { w with windows := windows } where
  elsewhere := rfl
  listed := order.map ManagedWindow.id
  found window := by
    have distinct' : (windows.map ManagedWindow.id).Nodup :=
      (order.map ManagedWindow.id).nodup_iff.mpr distinct
    ext found
    rw [find?_eq_some_iff distinct, find?_eq_some_iff distinct', order.mem_iff]

theorem Reorders.desktop_eq (reorders : w.Reorders other) :
    other.desktop = { w.desktop with clientList := other.desktop.clientList } := by
  obtain ⟨elsewhere, -, found⟩ := reorders
  rw [elsewhere] at found ⊢
  simp only [desktop, Desktop.mk.injEq, funext_iff]
  simp [guarded, about, found, isFaulty]

theorem Reorders.looksLike (reorders : w.Reorders other) (honorStruts : Bool) :
    w.desktop.LooksLike honorStruts other.desktop := by
  have listing : other.desktop.clientList =
      w.guarded .clientList (.ok (other.windows.map ManagedWindow.id)) := by
    conv_lhs => rw [reorders.elsewhere]
    rfl
  rw [reorders.desktop_eq, listing]
  apply Desktop.looksLike_of_strutSet_eq
  rw [guarded]
  split
  · rename_i faulty
    have unlisted : w.desktop.clientList = .error (.fault Query.clientList.operation) :=
      if_pos faulty
    rw [Desktop.strutSet, unlisted]
    rfl
  · rename_i sound
    have listed : w.desktop.clientList = .ok (w.windows.map ManagedWindow.id) := if_neg sound
    exact Desktop.strutSet_of_perm listed reorders.listed

theorem Reorders.modify (reorders : w.Reorders other) (window : WindowId)
    {change : ManagedWindow → ManagedWindow} (keeps : ∀ found, (change found).id = found.id) :
    (w.modify window change).Reorders (other.modify window change) where
  elsewhere := by
    conv_lhs => rw [reorders.elsewhere]
    rfl
  listed := by
    rw [ids_modify other window change keeps, ids_modify w window change keeps]
    exact reorders.listed
  found asked := by
    by_cases about : asked = window
    · rw [about, find?_modify other window change keeps, find?_modify w window change keeps,
        reorders.found]
    · rw [find?_modify_of_ne other window change keeps about,
        find?_modify_of_ne w window change keeps about, reorders.found]

theorem Reorders.perform_eq (reorders : w.Reorders other) (request : Request) :
    other.perform request = (w.perform request).map fun _ => other.carryOut request := by
  have faulty_eq : other.isFaulty request.operation (some request.window) =
      w.isFaulty request.operation (some request.window) := by
    conv_lhs => rw [reorders.elsewhere]
    rfl
  rw [perform, perform, faulty_eq, reorders.found]
  split
  · rfl
  · cases w.find? request.window <;> rfl

theorem Reorders.run (reorders : w.Reorders other) (honorStruts : Bool) (placement : Placement) :
    let ran := w.run honorStruts (.moveResize placement)
    let ran' := other.run honorStruts (.moveResize placement)
    ran'.1.failure = ran.1.failure ∧ ran'.1.request = ran.1.request ∧ ran.2.Reorders ran'.2 := by
  have same : (other.desktop.plan honorStruts (.moveResize placement)).result =
      (w.desktop.plan honorStruts (.moveResize placement)).result :=
    Inquiry.result_map_congr
      ((reorders.looksLike honorStruts).result_planMoveResize placement).symm some
  rcases w.run_cases honorStruts (.moveResize placement) with
    ⟨reason, planned, ran⟩ | ⟨planned, ran⟩ | ⟨request, refusal, planned, refused, ran⟩ |
      ⟨request, planned, performed, ran⟩ <;>
    rw [planned] at same <;> simp only [ran]
  · simp only [Workspace.run, same]
    exact ⟨trivial, trivial, reorders⟩
  · simp only [Workspace.run, same]
    exact ⟨trivial, trivial, reorders⟩
  · simp only [Workspace.run, same, reorders.perform_eq, refused, Except.map]
    exact ⟨trivial, trivial, reorders⟩
  · obtain ⟨placed, moved, shape⟩ := Inquiry.result_map_eq_ok_iff.mp planned
    obtain ⟨window, _, _, _, target, -, -, -, -, -, rfl⟩ :=
      Desktop.result_planMoveResize_eq_ok_iff.mp moved
    obtain rfl := Option.some.inj shape
    simp only [Workspace.run, same, reorders.perform_eq, performed, Except.map]
    exact ⟨trivial, trivial, reorders.modify window fun _ => rfl⟩

end Reorders

end Workspace

/-- It does not matter in which order, or how often, struts are taken off, nor in which order a
desktop lists its windows. -/
theorem order_does_not_matter :
    (∀ (root : Rect) (heads : List Rect) (struts others : List Strut),
      (∀ strut, strut ∈ struts ↔ strut ∈ others) →
        usableAreas root struts heads = usableAreas root others heads) ∧
    (∀ (Failure : Type) (d : Desktop Failure) (clients reordered : List WindowId),
      d.clientList = .ok clients → reordered.Perm clients →
        ∀ (honorStruts : Bool) (placement : Placement),
          ({ d with clientList := .ok reordered }.planMoveResize honorStruts placement).result =
            (d.planMoveResize honorStruts placement).result) ∧
    ∀ (w other : Workspace), w.Reorders other →
      ∀ (honorStruts : Bool) (placement : Placement),
        let ran := w.run honorStruts (.moveResize placement)
        let ran' := other.run honorStruts (.moveResize placement)
        ran'.1.failure = ran.1.failure ∧ ran'.1.request = ran.1.request ∧
          ran.2.Reorders ran'.2 := by
  refine ⟨?_, ?_, ?_⟩
  · intro root heads struts others same
    exact usableAreas_congr_of_mem_iff same root heads
  · intro Failure d clients reordered listed order honorStruts placement
    have alike : d.LooksLike honorStruts { d with clientList := .ok reordered } :=
      Desktop.looksLike_of_strutSet_eq (Desktop.strutSet_of_perm listed order)
    exact (alike.result_planMoveResize placement).symm
  · intro w other reorders honorStruts placement
    exact reorders.run honorStruts placement

/-- A panel on the left and one on the right that leave nothing of a head, in two orders; and a
workspace with its windows in two orders, one of which cannot be asked for its strut. -/
theorem order_does_not_matter_crossing :
    let root : Rect := ⟨0, 0, 100, 100⟩
    let onLeft : Strut := ⟨80, 0, 0, 0, .wholeEdge, .wholeEdge, .wholeEdge, .wholeEdge⟩
    let onRight : Strut := ⟨0, 50, 0, 0, .wholeEdge, ⟨0, 99⟩, .wholeEdge, .wholeEdge⟩
    let reordered : Workspace :=
      { Workspace.withPanel with windows := Workspace.withPanel.windows.reverse }
    (∀ strut, strut ∈ [onLeft, onRight] ↔ strut ∈ [onRight, onLeft, onRight]) ∧
      usableAreas root [onLeft, onRight] [⟨0, 0, 100, 100⟩] = .ok [⟨80, 0, 0, 100⟩] ∧
      usableAreas root [onRight, onLeft, onRight] [⟨0, 0, 100, 100⟩] = .ok [⟨80, 0, 0, 100⟩] ∧
      Workspace.withPanel.desktop.clientList = .ok [1, 2, 3] ∧ [3, 1, 2].Perm [1, 2, 3] ∧
      ({ Workspace.withPanel.desktop with clientList := .ok [3, 1, 2] }.planMoveResize true
          Workspace.rightHalf).result =
        (Workspace.withPanel.desktop.planMoveResize true Workspace.rightHalf).result ∧
      Workspace.withPanel.Reorders reordered ∧
      (reordered.run true (.moveResize Workspace.rightHalf)).1.failure = none ∧
      (reordered.run true (.moveResize Workspace.rightHalf)).1.request =
        (Workspace.withPanel.run true (.moveResize Workspace.rightHalf)).1.request := by
  intro root onLeft onRight reordered
  obtain ⟨struts_order, desktop_order, workspace_order⟩ := order_does_not_matter
  have same : ∀ strut, strut ∈ [onLeft, onRight] ↔ strut ∈ [onRight, onLeft, onRight] := by
    grind
  have order : [3, 1, 2].Perm [1, 2, 3] := by decide
  have reorders : Workspace.withPanel.Reorders reordered :=
    Workspace.reorders_of_perm (by decide) (List.reverse_perm _)
  have runs := workspace_order _ _ reorders true Workspace.rightHalf
  have left : usableAreas root [onLeft, onRight] [⟨0, 0, 100, 100⟩] = .ok [⟨80, 0, 0, 100⟩] := by
    decide
  refine ⟨same, left, ?_, rfl, order, ?_, reorders, runs.1, runs.2.1⟩
  · rw [← struts_order root _ _ _ same, left]
  exact desktop_order _ Workspace.withPanel.desktop _ _ rfl order true Workspace.rightHalf

end WindowPlacement
