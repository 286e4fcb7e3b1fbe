import WindowPlacement.Proofs.Calls
import WindowPlacement.Proofs.TitleSearch

/-!
# The calls of focusing

Focusing a window asks for titles from the top of the stack downwards and no further than to the
first match, which is then activated.  Activating a window takes it to the top, so the same search
finds it at once, and activating it again changes nothing.
-/

namespace WindowPlacement

namespace Desktop

variable {Failure : Type} {d : Desktop Failure} {pattern : TitlePattern}

section Queries

open Inquiry

theorem queries_findTitle_of_not_matches {window : WindowId}
    (unmatched : ¬d.Matches pattern window) (rest : List WindowId) :
    (d.findTitle pattern (window :: rest)).queries =
      .title window :: (d.findTitle pattern rest).queries := by
  refine (queries_bind_of_ok (result_tryAsk _ _)).trans ?_
  rw [Matches] at unmatched
  cases answered : d.title window with
  | error failure => rfl
  | ok title? =>
    cases title? with
    | none => rfl
    | some title =>
      have rejected : ¬(title ≠ "" ∧ pattern.accepts title = true) := fun accepted =>
        unmatched ⟨title, answered, accepted⟩
      simp only [Except.toOption, if_neg rejected]
      rfl

theorem queries_findTitle_of_matches {window : WindowId} (matched : d.Matches pattern window)
    (rest : List WindowId) : (d.findTitle pattern (window :: rest)).queries = [.title window] := by
  obtain ⟨title, answered, accepted⟩ := matched
  refine (queries_bind_of_ok (result_tryAsk _ _)).trans ?_
  simp only [answered, Except.toOption, if_pos accepted]
  rfl

/-- In front of a match the search asks for every title, and once for each place of a window. -/
theorem queries_findTitle_append {front : List WindowId}
    (unmatched : ∀ window ∈ front, ¬d.Matches pattern window) (rest : List WindowId) :
    (d.findTitle pattern (front ++ rest)).queries =
      front.map .title ++ (d.findTitle pattern rest).queries := by
  induction front with
  | nil => rfl
  | cons window front ih =>
    rw [List.forall_mem_cons] at unmatched
    rw [List.cons_append, queries_findTitle_of_not_matches unmatched.1, ih unmatched.2]
    rfl

theorem queries_planFocus {stacking : List WindowId} (answered : d.stackingOrder = .ok stacking) :
    (d.planFocus pattern).queries =
      .stackingOrder :: (d.findTitle pattern stacking.reverse).queries := by
  rw [planFocus, queries_bind_of_ok (result_ask_eq_ok_iff.mpr answered),
    queries_bind_of_ok (result_findTitle _)]
  -- What comes after the search, a remark or giving up, asks nothing.
  rcases stacking.reverse.findSome? (d.match? pattern) with _ | ⟨window, title⟩
  · exact congrArg (List.cons _) (List.append_nil _)
  · exact congrArg (List.cons _) (List.append_nil _)

end Queries

variable (honorStruts : Bool) {stacking below above : List WindowId} {window : WindowId}

/-- The topmost match is asked for as the last one, and then the plan ends. -/
theorem plan_focus_of_match (answered : d.stackingOrder = .ok (below ++ window :: above))
    (matched : d.Matches pattern window) (topmost : ∀ other ∈ above, ¬d.Matches pattern other) :
    (d.plan honorStruts (.focus pattern)).queries =
        .stackingOrder :: (above.reverse ++ [window]).map .title ∧
      (d.plan honorStruts (.focus pattern)).result = .ok (some (.activate window)) := by
  have from_top : (below ++ window :: above).reverse =
      above.reverse ++ window :: below.reverse := by simp
  have unmatched : ∀ other ∈ above.reverse, ¬d.Matches pattern other := fun other member =>
    topmost other (List.mem_reverse.mp member)
  constructor
  · rw [plan, Inquiry.queries_map, queries_planFocus answered, from_top,
      queries_findTitle_append unmatched, queries_findTitle_of_matches matched, List.map_append]
    rfl
  · refine Inquiry.result_map_eq_ok_iff.mpr ⟨_, result_planFocus_eq_ok_iff.mpr ?_, rfl⟩
    obtain ⟨title, titled, accepted⟩ := matched
    refine ⟨_, window, title, answered, ?_, rfl⟩
    have none_above : above.reverse.findSome? (d.match? pattern) = none :=
      List.findSome?_eq_none_iff.mpr fun other member =>
        match?_eq_none_iff.mpr (unmatched other member)
    have found : d.match? pattern window = some (window, title) := by
      simp only [match?, titled, if_pos accepted]
    rw [result_findTitle, from_top, List.findSome?_append, none_above, List.findSome?_cons, found]
    rfl

theorem plan_focus_of_no_match (answered : d.stackingOrder = .ok stacking)
    (unmatched : ∀ window ∈ stacking, ¬d.Matches pattern window) :
    (d.plan honorStruts (.focus pattern)).queries = .stackingOrder :: stacking.reverse.map .title ∧
      (d.plan honorStruts (.focus pattern)).result = .error (.noMatch pattern.text) := by
  have unmatched : ∀ window ∈ stacking.reverse, ¬d.Matches pattern window :=
    fun window member => unmatched window (List.mem_reverse.mp member)
  constructor
  · have all_asked := queries_findTitle_append unmatched []
    rw [List.append_nil] at all_asked
    rw [plan, Inquiry.queries_map, queries_planFocus answered, all_asked]
    exact congrArg (List.cons _) (List.append_nil _)
  · rcases result_planFocus pattern answered with
      ⟨window, ⟨below, above, split, matched, -⟩, -⟩ | ⟨-, given_up⟩
    · exact absurd matched (unmatched window (by simp [split]))
    · exact (Inquiry.bind_of_error _ given_up).2

end Desktop

namespace Workspace

variable {w : Workspace} (honorStruts : Bool) {pattern : TitlePattern}
  {stacking below above : List WindowId} {window : WindowId}

def titleCalls (windows : List WindowId) : List Call :=
  windows.map fun window => .query (.title window)

theorem calls_of_queries {queries : List Query} {windows : List WindowId}
    (asked : queries = .stackingOrder :: windows.map .title) :
    queries.map Call.query = .query .stackingOrder :: titleCalls windows := by
  rw [asked, List.map_cons, List.map_map]
  rfl

/-- What the topmost match leads to depends on whether it can be activated. -/
theorem run_focus_of_match (answered : w.desktop.stackingOrder = .ok (below ++ window :: above))
    (matched : w.desktop.Matches pattern window)
    (topmost : ∀ other ∈ above, ¬w.desktop.Matches pattern other) :
    (w.run honorStruts (.focus pattern)).1.calls =
        .query .stackingOrder :: titleCalls (above.reverse ++ [window]) ++
          [.request (.activate window)] ∧
      match w.perform (.activate window) with
      | .error failure => (w.run honorStruts (.focus pattern)).1.failure = some (.desktop failure)
      | .ok after => (w.run honorStruts (.focus pattern)).1.failure = none ∧
          (w.run honorStruts (.focus pattern)).2 = after := by
  obtain ⟨asked, planned⟩ :=
    Desktop.plan_focus_of_match honorStruts answered matched topmost
  have calls := calls_of_queries asked
  cases performed : w.perform (.activate window) with
  | error failure =>
    have ran : w.run honorStruts (.focus pattern) =
        (⟨(w.desktop.plan honorStruts (.focus pattern)).events, some (.activate window),
          some (.desktop failure)⟩, w) := by
      simp only [run, planned, performed]
    rw [ran, calls_of_plan, calls]
    exact ⟨rfl, rfl⟩
  | ok after =>
    have ran : w.run honorStruts (.focus pattern) =
        (⟨(w.desktop.plan honorStruts (.focus pattern)).events, some (.activate window), none⟩,
          after) := by
      simp only [run, planned, performed]
    rw [ran, calls_of_plan, calls]
    exact ⟨rfl, rfl, rfl⟩

theorem run_focus_of_no_match (answered : w.desktop.stackingOrder = .ok stacking)
    (unmatched : ∀ window ∈ stacking, ¬w.desktop.Matches pattern window) :
    (w.run honorStruts (.focus pattern)).1.calls =
        .query .stackingOrder :: titleCalls stacking.reverse ∧
      (w.run honorStruts (.focus pattern)).1.failure = some (.noMatch pattern.text) := by
  obtain ⟨asked, planned⟩ :=
    Desktop.plan_focus_of_no_match honorStruts answered unmatched
  have ran : w.run honorStruts (.focus pattern) =
      (⟨(w.desktop.plan honorStruts (.focus pattern)).events, none,
        some (.noMatch pattern.text)⟩, w) := by
    simp only [run, planned]
  rw [ran, calls_of_plan, calls_of_queries asked]
  exact ⟨List.append_nil _, rfl⟩

theorem topmost_match_or_none (d : Desktop WorkspaceError) (pattern : TitlePattern)
    (stacking : List WindowId) :
    (∃ below window above, stacking = below ++ window :: above ∧ d.Matches pattern window ∧
        ∀ other ∈ above, ¬d.Matches pattern other) ∨
      ∀ window ∈ stacking, ¬d.Matches pattern window := by
  rcases d.findSome?_match?_reverse pattern stacking with
    ⟨window, -, -, below, above, split, matched, topmost⟩ | ⟨-, unmatched⟩
  · exact .inl ⟨below, window, above, split, matched, topmost⟩
  · exact .inr unmatched

theorem run_focus_fails_noMatch_iff (answered : w.desktop.stackingOrder = .ok stacking)
    {text : String} :
    (w.run honorStruts (.focus pattern)).1.failure = some (.noMatch text) ↔
      text = pattern.text ∧ ∀ window ∈ stacking, ¬w.desktop.Matches pattern window := by
  constructor
  · intro failed
    rcases topmost_match_or_none w.desktop pattern stacking with
      ⟨below, window, above, rfl, matched, topmost⟩ | unmatched
    · obtain ⟨-, ended⟩ := run_focus_of_match honorStruts answered matched topmost
      cases performed : w.perform (.activate window) <;> simp [performed, failed] at ended
    · obtain ⟨-, ended⟩ := run_focus_of_no_match honorStruts answered unmatched
      have same := failed.symm.trans ended
      exact ⟨RunError.noMatch.inj (Option.some.inj same), unmatched⟩
  · rintro ⟨rfl, unmatched⟩
    exact (run_focus_of_no_match honorStruts answered unmatched).2

theorem carryOut_activate_twice (w : Workspace) (window : WindowId) :
    (w.carryOut (.activate window)).carryOut (.activate window) =
      w.carryOut (.activate window) := by
  simp [carryOut, List.filter_append, List.filter_filter]

/-- After focusing a window, focusing again asks for the title of this window only, and activates
it without changing anything. -/
theorem run_focus_again (succeeded : (w.run honorStruts (.focus pattern)).1.failure = none) :
    ∃ window, (w.run honorStruts (.focus pattern)).1.requests = [.activate window] ∧
      let after := (w.run honorStruts (.focus pattern)).2
      (after.run honorStruts (.focus pattern)).1.calls =
          [.query .stackingOrder, .query (.title window), .request (.activate window)] ∧
        (after.run honorStruts (.focus pattern)).1.failure = none ∧
        (after.run honorStruts (.focus pattern)).2 = after := by
  obtain ⟨outcome, planned, requested, -⟩ := w.run_succeeds honorStruts _ succeeded
  obtain ⟨request, focused, -⟩ := Inquiry.result_map_eq_ok_iff.mp planned
  obtain ⟨stacking, -, -, answered, -, -⟩ := Desktop.result_planFocus_eq_ok_iff.mp focused
  rcases topmost_match_or_none w.desktop pattern stacking with
    ⟨below, window, above, rfl, matched, topmost⟩ | unmatched
  · obtain ⟨-, ends⟩ :=
      Desktop.plan_focus_of_match honorStruts answered matched topmost
    obtain rfl := Except.ok.inj (planned.symm.trans ends)
    obtain ⟨-, ended⟩ := run_focus_of_match honorStruts answered matched topmost
    cases performed : w.perform (.activate window) with
    | error failure => simp [performed, succeeded] at ended
    | ok after =>
      rw [performed] at ended
      obtain ⟨sound, found, rfl⟩ := perform_eq_ok_iff.mp performed
      refine ⟨window, requested, ?_⟩
      rw [ended.2]
      have raised : (w.carryOut (.activate window)).desktop.stackingOrder =
          .ok (w.stacking.filter (· ≠ window) ++ [window]) := guarded_eq_of_answer answered _
      have still_matched : (w.carryOut (.activate window)).desktop.Matches pattern window :=
        matched
      -- The window is now on top, so nothing is above it.
      have second := run_focus_of_match honorStruts raised still_matched (by simp)
      have repeated : (w.carryOut (.activate window)).perform (.activate window) =
          .ok (w.carryOut (.activate window)) :=
        perform_eq_ok_iff.mpr ⟨sound, found, (w.carryOut_activate_twice window).symm⟩
      rw [repeated] at second
      exact second
  · have failed := (run_focus_of_no_match honorStruts answered unmatched).2
    rw [succeeded] at failed
    cases failed

/-- How a run of `focus` goes, if the stack is known.  Titles are asked for from the top down to
the topmost match, and that window is activated.  The same command finds it again at once. -/
structure FocusLaws (w : Workspace) (honorStruts : Bool) (pattern : TitlePattern) : Prop where
  finds : ∀ below window above, w.desktop.stackingOrder = .ok (below ++ window :: above) →
    w.desktop.Matches pattern window → (∀ other ∈ above, ¬w.desktop.Matches pattern other) →
    (w.run honorStruts (.focus pattern)).1.calls =
        .query .stackingOrder :: titleCalls (above.reverse ++ [window]) ++
          [.request (.activate window)] ∧
      match w.perform (.activate window) with
      | .error failure => (w.run honorStruts (.focus pattern)).1.failure = some (.desktop failure)
      | .ok after => (w.run honorStruts (.focus pattern)).1.failure = none ∧
          (w.run honorStruts (.focus pattern)).2 = after
  misses : ∀ stacking, w.desktop.stackingOrder = .ok stacking →
    (∀ window ∈ stacking, ¬w.desktop.Matches pattern window) →
    (w.run honorStruts (.focus pattern)).1.calls =
        .query .stackingOrder :: titleCalls stacking.reverse ∧
      (w.run honorStruts (.focus pattern)).1.failure = some (.noMatch pattern.text)
  fails_noMatch_iff : ∀ stacking text, w.desktop.stackingOrder = .ok stacking →
    ((w.run honorStruts (.focus pattern)).1.failure = some (.noMatch text) ↔
      text = pattern.text ∧ ∀ window ∈ stacking, ¬w.desktop.Matches pattern window)
  settles : (w.run honorStruts (.focus pattern)).1.failure = none →
    ∃ window, (w.run honorStruts (.focus pattern)).1.requests = [.activate window] ∧
      let after := (w.run honorStruts (.focus pattern)).2
      (after.run honorStruts (.focus pattern)).1.calls =
          [.query .stackingOrder, .query (.title window), .request (.activate window)] ∧
        (after.run honorStruts (.focus pattern)).1.failure = none ∧
        (after.run honorStruts (.focus pattern)).2 = after

/-- Focusing takes the topmost match, whichever calls fail, and comes to the same when it is
repeated. -/
theorem focus_takes_topmost (w : Workspace) (honorStruts : Bool) (pattern : TitlePattern) :
    w.FocusLaws honorStruts pattern where
  finds _ _ _ answered matched topmost := run_focus_of_match honorStruts answered matched topmost
  misses _ answered unmatched := run_focus_of_no_match honorStruts answered unmatched
  fails_noMatch_iff _ _ answered := run_focus_fails_noMatch_iff honorStruts answered
  settles succeeded := run_focus_again honorStruts succeeded

end Workspace

end WindowPlacement
