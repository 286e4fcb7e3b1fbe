import WindowPlacement.Desktop.Workspace

/-!
# Answers and changes of a workspace

What an answer of a workspace says about the workspace, and what a change leaves as it was.
-/

namespace WindowPlacement.Workspace

section Answers

variable {w : Workspace}

/-- A question that does not fail is answered as it would be without faults. -/
theorem eq_of_guarded_eq_ok {α : Type} {query : Query} {answer : Except WorkspaceError α}
    {value : α} (answered : w.guarded query answer = .ok value) : answer = .ok value := by
  rw [guarded] at answered
  split at answered
  · simp at answered
  · exact answered

/-- If a question is answered, then it is also answered in another state with the same faults. -/
theorem guarded_eq_of_answer {α : Type} {query : Query} {answer : Except WorkspaceError α}
    {value : α} (answered : w.guarded query answer = .ok value)
    (answer' : Except WorkspaceError α) : w.guarded query answer' = answer' := by
  rw [guarded] at answered ⊢
  split at answered
  · simp at answered
  · rename_i sound
    exact if_neg sound

theorem root_eq_of_answer {root : Rect} (answered : w.desktop.root = .ok root) :
    root = w.root :=
  (Except.ok.inj (eq_of_guarded_eq_ok answered)).symm

theorem heads_eq_of_answer {heads : List Rect} (answered : w.desktop.heads = .ok heads) :
    heads = w.heads :=
  (Except.ok.inj (eq_of_guarded_eq_ok answered)).symm

theorem clientList_eq_of_answer {clients : List WindowId}
    (answered : w.desktop.clientList = .ok clients) :
    clients = w.windows.map ManagedWindow.id :=
  (Except.ok.inj (eq_of_guarded_eq_ok answered)).symm

theorem active_eq_of_answer {window : WindowId}
    (answered : w.desktop.activeWindow = .ok window) : w.active = some window := by
  have known := eq_of_guarded_eq_ok answered
  cases active : w.active with
  | none => simp [active] at known
  | some found =>
    rw [active] at known
    exact congrArg some (Except.ok.inj known)

theorem find?_of_answer {α : Type} {query : Query} {window : WindowId}
    {answer : ManagedWindow → α} {value : α}
    (answered : w.guarded query (w.about window answer) = .ok value) :
    ∃ found, w.find? window = some found ∧ answer found = value := by
  have told := eq_of_guarded_eq_ok answered
  rw [about] at told
  cases known : w.find? window with
  | none => simp [known] at told
  | some found =>
    rw [known] at told
    exact ⟨found, rfl, Except.ok.inj told⟩

end Answers

section Changes

variable (w : Workspace) (window : WindowId) (change : ManagedWindow → ManagedWindow)

/-- The windows of a workspace are found as before after a change that keeps their ids. -/
theorem find?_modify (keeps : ∀ found, (change found).id = found.id) :
    (w.modify window change).find? window = (w.find? window).map change := by
  simp only [modify, find?, List.find?_map]
  have same : ((fun candidate : ManagedWindow => candidate.id == window) ∘ fun candidate =>
      if candidate.id = window then change candidate else candidate) =
        fun candidate => candidate.id == window := by
    funext candidate
    by_cases about : candidate.id = window <;> simp [about, keeps]
  rw [same]
  cases known : w.windows.find? fun candidate => candidate.id == window with
  | none => rfl
  | some found =>
    have about : found.id = window := by simpa using List.find?_some known
    simp [about]

theorem find?_modify_of_ne (keeps : ∀ found, (change found).id = found.id) {other : WindowId}
    (differs : other ≠ window) : (w.modify window change).find? other = w.find? other := by
  simp only [modify, find?]
  induction w.windows with
  | nil => rfl
  | cons candidate rest ih =>
    by_cases about : candidate.id = window
    · have not_other : candidate.id ≠ other := fun same => differs (same.symm.trans about)
      simp [about, keeps, ih, differs.symm]
    · simp only [List.map_cons, if_neg about, List.find?_cons, ih]

/-- An answer about a window stays as it was if the change does not matter to it. -/
theorem about_modify {α : Type} (keeps : ∀ found, (change found).id = found.id)
    {answer : ManagedWindow → α} {asked : WindowId}
    (blind : asked = window → ∀ found, answer (change found) = answer found) :
    (w.modify window change).about asked answer = w.about asked answer := by
  rw [Workspace.about, Workspace.about]
  by_cases same : asked = window
  · rw [same, find?_modify w window change keeps]
    cases w.find? window with
    | none => rfl
    | some found => exact congrArg Except.ok (blind same found)
  · rw [find?_modify_of_ne w window change keeps same]

theorem ids_modify (keeps : ∀ found, (change found).id = found.id) :
    (w.modify window change).windows.map ManagedWindow.id = w.windows.map ManagedWindow.id := by
  simp only [modify, List.map_map]
  apply List.map_congr_left
  intro candidate _
  by_cases about : candidate.id = window <;> simp [about, keeps]

end Changes

end WindowPlacement.Workspace
