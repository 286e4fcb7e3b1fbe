import WindowPlacement.Proofs.Plan

/-!
# Searching for a title

The search for a title goes through some windows, and passes over those whose titles cannot be
read.  It is made from the top of the stack downwards, so what it finds is the topmost match.
-/

namespace WindowPlacement.Desktop

variable {Failure : Type} {d : Desktop Failure} {pattern : TitlePattern}

/-- The title of a window can be read, is not empty, and is accepted by a pattern. -/
def Matches (d : Desktop Failure) (pattern : TitlePattern) (window : WindowId) : Prop :=
  ∃ title, d.title window = .ok (some title) ∧ title ≠ "" ∧ pattern.accepts title = true

/-- A window with its title, if that is accepted by a pattern. -/
def match? (d : Desktop Failure) (pattern : TitlePattern) (window : WindowId) :
    Option (WindowId × String) :=
  match d.title window with
  | .ok (some title) =>
    if title ≠ "" ∧ pattern.accepts title then some (window, title) else none
  | _ => none

theorem match?_eq_none_iff {window : WindowId} :
    d.match? pattern window = none ↔ ¬d.Matches pattern window := by
  rw [match?, Matches]
  rcases d.title window with _ | _ | title <;> simp

theorem match?_eq_some {window found : WindowId} {title : String}
    (matched : d.match? pattern window = some (found, title)) :
    found = window ∧ d.Matches pattern window := by
  unfold match? at matched
  split at matched
  · rename_i text answered
    split at matched
    · rename_i accepted
      have same : window = found := (Prod.mk.inj (Option.some.inj matched)).1
      exact ⟨same.symm, text, answered, accepted.1, accepted.2⟩
    · cases matched
  · cases matched

/-- A search always succeeds, with the first match if there is one. -/
theorem result_findTitle (windows : List WindowId) :
    (d.findTitle pattern windows).result = .ok (windows.findSome? (d.match? pattern)) := by
  induction windows with
  | nil => rfl
  | cons window rest ih =>
    refine Inquiry.result_bind_eq_ok_iff.mpr ⟨_, Inquiry.result_tryAsk _ _, ?_⟩
    rw [List.findSome?_cons, match?]
    rcases d.title window with _ | _ | title
    · exact ih
    · exact ih
    · simp only [Except.toOption]
      split
      · rfl
      · exact ih

/-- A window matches, and no window above it does. -/
def IsTopmostMatch (d : Desktop Failure) (pattern : TitlePattern) (window : WindowId) : Prop :=
  ∃ below above, d.stackingOrder = .ok (below ++ window :: above) ∧
    d.Matches pattern window ∧ ∀ other ∈ above, ¬d.Matches pattern other

theorem isTopmostMatch_of_findTitle {stacking : List WindowId} {window : WindowId}
    {title : String} (answered : d.stackingOrder = .ok stacking)
    (found : (d.findTitle pattern stacking.reverse).result = .ok (some (window, title))) :
    d.IsTopmostMatch pattern window := by
  rw [result_findTitle] at found
  obtain ⟨above, candidate, below, split, matched, none_above⟩ :=
    List.findSome?_eq_some_iff.mp (Except.ok.inj found)
  obtain ⟨rfl, matches_pattern⟩ := match?_eq_some matched
  refine ⟨below.reverse, above.reverse, ?_, matches_pattern, ?_⟩
  · rw [answered, ← List.reverse_reverse stacking, split]
    simp
  · intro other member
    exact match?_eq_none_iff.mp (none_above other (List.mem_reverse.mp member))

/-- Of a list of windows, a window matches and none behind it does. -/
def IsLastMatch (d : Desktop Failure) (pattern : TitlePattern) (windows : List WindowId)
    (window : WindowId) : Prop :=
  ∃ below above, windows = below ++ window :: above ∧ d.Matches pattern window ∧
    ∀ other ∈ above, ¬d.Matches pattern other

theorem findSome?_match?_reverse (d : Desktop Failure) (pattern : TitlePattern)
    (windows : List WindowId) :
    (∃ window title, windows.reverse.findSome? (d.match? pattern) = some (window, title) ∧
        d.IsLastMatch pattern windows window) ∨
      (windows.reverse.findSome? (d.match? pattern) = none ∧
        ∀ window ∈ windows, ¬d.Matches pattern window) := by
  cases searched : windows.reverse.findSome? (d.match? pattern) with
  | some found =>
    obtain ⟨above, window, below, split, matched, none_above⟩ :=
      List.findSome?_eq_some_iff.mp searched
    obtain ⟨same, matches_pattern⟩ := match?_eq_some matched
    refine .inl ⟨found.1, found.2, rfl, below.reverse, above.reverse, ?_, ?_, ?_⟩
    · rw [← List.reverse_reverse windows, split, same]
      simp
    · rwa [same]
    · intro other member
      exact match?_eq_none_iff.mp (none_above other (List.mem_reverse.mp member))
  | none =>
    refine .inr ⟨rfl, fun window member => match?_eq_none_iff.mp ?_⟩
    exact List.findSome?_eq_none_iff.mp searched window (List.mem_reverse.mpr member)

/-- Focusing ends with the last window of the stack that matches, or else with the failure that
none does. -/
theorem result_planFocus (pattern : TitlePattern) {stack : List WindowId}
    (answered : d.stackingOrder = .ok stack) :
    (∃ window, d.IsLastMatch pattern stack window ∧
        (d.planFocus pattern).result = .ok (.activate window)) ∨
      ((∀ window ∈ stack, ¬d.Matches pattern window) ∧
        (d.planFocus pattern).result = .error (.noMatch pattern.text)) := by
  have asked : (Inquiry.ask .stackingOrder d.stackingOrder).result = .ok stack := by
    rw [answered]
    rfl
  rcases d.findSome?_match?_reverse pattern stack with
    ⟨window, title, searched, last⟩ | ⟨searched, no_match⟩
  · refine .inl ⟨window, last, result_planFocus_eq_ok_iff.mpr
      ⟨stack, window, title, answered, ?_, rfl⟩⟩
    rw [result_findTitle, searched]
  · refine .inr ⟨no_match, ?_⟩
    simp only [planFocus, Inquiry.result_bind, asked, result_findTitle, searched, Except.bind,
      Inquiry.result_giveUp]

end WindowPlacement.Desktop
