import WindowPlacement.Proofs.Plan
import WindowPlacement.Proofs.Workspace

/-!
# The calls of a command

Running a command on a workspace is a sequence of calls: the questions of the plan, and then
the request if there is one.  A call that fails is the last one, the only exceptions being
the struts of other windows and the titles that are searched.  So a command that fails has
changed nothing, and one that succeeds has changed what it is for.
-/

namespace WindowPlacement

/-- A call to a windowing system. -/
inductive Call
  | query (query : Query)
  | request (request : Request)
  deriving DecidableEq, Repr

def Call.request? : Call → Option Request
  | .query _ => none
  | .request change => some change

/-- The failure of a call does not end the command. -/
def Command.ToleratesCall (command : Command) : Call → Prop
  | .query query => command.Tolerates query
  | .request _ => False

namespace Workspace

def CallFailsWith (w : Workspace) (call : Call) (failure : WorkspaceError) : Prop :=
  match call with
  | .query query => w.desktop.FailsWith query failure
  | .request request => w.perform request = .error failure

def Report.calls (report : Report) : List Call :=
  (report.events.filterMap Event.query?).map .query ++ report.request.toList.map .request

def Report.requests (report : Report) : List Request :=
  report.calls.filterMap Call.request?

/-- There is nothing to do for `switch`: fewer than two heads, or the destination is the head
that the active window is on. -/
def Stays (w : Workspace) (destination : Destination) : Prop :=
  w.heads.length < 2 ∨
    ∃ window found current, w.active = some window ∧ w.find? window = some found ∧
      owningHead found.frame w.heads = .ok current ∧
      (destination.resolve current : Except (RunError WorkspaceError) _) = .ok current

/-- What a command that succeeds has asked a workspace for. -/
def Fulfills (w : Workspace) (requests : List Request) : Command → Prop
  | .moveResize _ =>
    ∃ window target, w.active = some window ∧ requests = [.moveResize window target]
  | .focus _ => ∃ window, requests = [.activate window]
  | .toggle state => ∃ window, w.active = some window ∧ requests = [.toggle window state]
  | .switch destination =>
    (w.Stays destination ∧ requests = []) ∨
      (¬ w.Stays destination ∧
        ∃ window target, w.active = some window ∧ requests = [.moveResize window target])

/-- How a run of a command goes that leads from a workspace to another one.  At most one change is
asked for, as the last call.  The run ends at a failing call, unless the command can go on without
it, and then nothing has changed; a command that succeeds has asked for what it is for. -/
structure Orderly (w : Workspace) (command : Command) (report : Report) (after : Workspace) :
    Prop where
  changes_once : report.requests.length ≤ 1
  changes_last : ∀ before request rest,
    report.calls = before ++ .request request :: rest → rest = []
  stops : ∀ before call rest failure, report.calls = before ++ call :: rest →
    w.CallFailsWith call failure → ¬ command.ToleratesCall call →
      rest = [] ∧ report.failure = some (.desktop failure)
  blames : ∀ failure, report.failure = some (.desktop failure) →
    ∃ before call, report.calls = before ++ [call] ∧ w.CallFailsWith call failure ∧
      ¬ command.ToleratesCall call
  unchanged : report.failure ≠ none → after = w
  fulfilled : report.failure = none → w.Fulfills report.requests command
  carried_out : report.failure = none → after = report.requests.foldl carryOut w

section Runs

variable (w : Workspace) (honorStruts : Bool) (command : Command)

theorem perform_eq_ok_iff {w after : Workspace} {request : Request} :
    w.perform request = .ok after ↔
      w.isFaulty request.operation (some request.window) = false ∧
        (∃ found, w.find? request.window = some found) ∧ after = w.carryOut request := by
  rw [perform]
  cases w.isFaulty request.operation (some request.window) with
  | true => simp
  | false => cases w.find? request.window <;> simp [eq_comm]

/-- A run carries out the request that its plan ends with. -/
theorem run_cases :
    (∃ reason, (w.desktop.plan honorStruts command).result = .error reason ∧
      w.run honorStruts command =
        (⟨(w.desktop.plan honorStruts command).events, none, some reason⟩, w)) ∨
    ((w.desktop.plan honorStruts command).result = .ok none ∧
      w.run honorStruts command =
        (⟨(w.desktop.plan honorStruts command).events, none, none⟩, w)) ∨
    (∃ request failure, (w.desktop.plan honorStruts command).result = .ok (some request) ∧
      w.perform request = .error failure ∧
      w.run honorStruts command =
        (⟨(w.desktop.plan honorStruts command).events, some request,
          some (.desktop failure)⟩, w)) ∨
    (∃ request, (w.desktop.plan honorStruts command).result = .ok (some request) ∧
      w.perform request = .ok (w.carryOut request) ∧
      w.run honorStruts command =
        (⟨(w.desktop.plan honorStruts command).events, some request, none⟩,
          w.carryOut request)) := by
  cases planned : (w.desktop.plan honorStruts command).result with
  | error reason => exact .inl ⟨reason, rfl, by simp [run, planned]⟩
  | ok outcome =>
    cases outcome with
    | none => exact .inr (.inl ⟨rfl, by simp [run, planned]⟩)
    | some request =>
      cases performed : w.perform request with
      | error failure =>
        exact .inr (.inr (.inl ⟨request, failure, rfl, performed, by
          simp [run, planned, performed]⟩))
      | ok after =>
        obtain ⟨-, -, effect⟩ := perform_eq_ok_iff.mp performed
        exact .inr (.inr (.inr ⟨request, rfl, effect ▸ performed, by
          simp [run, planned, performed, effect]⟩))

theorem requests_eq (report : Report) : report.requests = report.request.toList := by
  have silent (queries : List Query) :
      (queries.map Call.query).filterMap Call.request? = [] := by
    simp [List.filterMap_map, Function.comp_def, Call.request?]
  cases change : report.request <;>
    simp [Report.requests, Report.calls, List.filterMap_append, silent, change, Call.request?]

theorem calls_of_plan (request : Option Request) (failure : Option (RunError WorkspaceError)) :
    Report.calls ⟨(w.desktop.plan honorStruts command).events, request, failure⟩ =
      (w.desktop.plan honorStruts command).queries.map .query ++ request.toList.map .request :=
  rfl

theorem eq_nil_of_calls_eq {report : Report} {before rest : List Call} {request : Request}
    (split : report.calls = before ++ .request request :: rest) : rest = [] := by
  have short : (report.request.toList.map Call.request).length ≤ 1 := by
    cases report.request <;> simp
  rcases List.append_eq_append_iff.mp split with ⟨middle, -, late⟩ | ⟨middle, early, late⟩
  · rw [late, List.length_append, List.length_cons] at short
    exact List.eq_nil_of_length_eq_zero (by omega)
  · cases middle with
    | nil =>
      rw [List.nil_append] at late
      rw [← late, List.length_cons] at short
      exact List.eq_nil_of_length_eq_zero (by omega)
    | cons asked behind =>
      obtain ⟨rfl, -⟩ := List.cons.inj late
      have asked : Call.request request ∈
          (report.events.filterMap Event.query?).map Call.query := by simp [early]
      simp at asked

/-- The requests of a plan that succeeds are what the command is for. -/
theorem fulfills_of_plan_eq_ok {outcome : Option Request}
    (planned : (w.desktop.plan honorStruts command).result = .ok outcome) :
    w.Fulfills outcome.toList command := by
  cases command with
  | moveResize placement =>
    obtain ⟨request, placed, rfl⟩ := Inquiry.result_map_eq_ok_iff.mp planned
    obtain ⟨window, _, _, _, target, active, -, -, -, -, rfl⟩ :=
      Desktop.result_planMoveResize_eq_ok_iff.mp placed
    exact ⟨window, target, active_eq_of_answer active, rfl⟩
  | focus pattern =>
    obtain ⟨request, matched, rfl⟩ := Inquiry.result_map_eq_ok_iff.mp planned
    obtain ⟨_, window, _, -, -, rfl⟩ := Desktop.result_planFocus_eq_ok_iff.mp matched
    exact ⟨window, rfl⟩
  | toggle state =>
    obtain ⟨request, toggled, rfl⟩ := Inquiry.result_map_eq_ok_iff.mp planned
    obtain ⟨window, active, rfl⟩ := Desktop.result_planToggle_eq_ok_iff.mp toggled
    exact ⟨window, active_eq_of_answer active, rfl⟩
  | switch destination =>
    obtain ⟨heads, answered, planned⟩ := Desktop.result_planSwitch_eq_ok_iff.mp planned
    obtain rfl := heads_eq_of_answer answered
    split at planned
    · rename_i few
      exact .inl ⟨.inl few, by simp [planned]⟩
    rename_i several
    obtain ⟨window, frame, active, framed, current, index, owned, resolved, planned⟩ := planned
    have active := active_eq_of_answer active
    obtain ⟨found, known, rfl⟩ := find?_of_answer framed
    split at planned
    · rename_i same
      exact .inl ⟨.inr ⟨window, found, current, active, known, owned, same ▸ resolved⟩,
        by simp [planned]⟩
    · rename_i moves
      obtain ⟨extents, -, rfl⟩ := planned
      refine .inr ⟨?_, window, _, active, rfl⟩
      rintro (few | ⟨other, found', current', active', known', owned', resolved'⟩)
      · exact several few
      obtain rfl : window = other := Option.some.inj (active.symm.trans active')
      obtain rfl : found = found' := Option.some.inj (known.symm.trans known')
      obtain rfl : current = current' := Except.ok.inj (owned.symm.trans owned')
      exact moves (Except.ok.inj (resolved.symm.trans resolved'))

/-- A failing question of the plan that matters is its last one, and the reason why the plan
is given up. -/
theorem last_of_failing_query {before rest : List Call} {call : Call}
    {failure : WorkspaceError}
    (split : (w.desktop.plan honorStruts command).queries.map .query = before ++ call :: rest)
    (fails : w.CallFailsWith call failure) (strict : ¬ command.ToleratesCall call) :
    rest = [] ∧
      (w.desktop.plan honorStruts command).result = .error (.desktop failure) := by
  obtain ⟨earlier, later, queries, rfl, rejoined⟩ := List.map_eq_append_iff.mp split
  obtain ⟨query, behind, rfl, rfl, rfl⟩ := List.map_eq_cons_iff.mp rejoined
  obtain ⟨rfl, givenUp⟩ := (Desktop.heeds_plan honorStruts command).stops earlier query behind
    failure queries fails strict
  exact ⟨rfl, givenUp⟩

theorem request_of_failing_call {request : Request} {before rest : List Call} {call : Call}
    {failure : WorkspaceError}
    (planned : (w.desktop.plan honorStruts command).result = .ok (some request))
    (split : (w.desktop.plan honorStruts command).queries.map .query ++ [.request request] =
      before ++ call :: rest)
    (fails : w.CallFailsWith call failure) (strict : ¬ command.ToleratesCall call) :
    call = .request request ∧ rest = [] := by
  rcases List.append_eq_append_iff.mp split with ⟨middle, -, late⟩ | ⟨middle, early, late⟩
  · cases middle <;> simp_all
  · cases middle with
    | nil => simp_all
    | cons asked behind =>
      obtain ⟨rfl, -⟩ := List.cons.inj late
      obtain ⟨-, givenUp⟩ :=
        w.last_of_failing_query honorStruts command early fails strict
      simp [planned] at givenUp

theorem run_stops {before rest : List Call} {call : Call} {failure : WorkspaceError}
    (split : (w.run honorStruts command).1.calls = before ++ call :: rest)
    (fails : w.CallFailsWith call failure) (strict : ¬ command.ToleratesCall call) :
    rest = [] ∧ (w.run honorStruts command).1.failure = some (.desktop failure) := by
  rcases w.run_cases honorStruts command with
    ⟨reason, planned, ran⟩ | ⟨planned, ran⟩ | ⟨request, refusal, planned, refused, ran⟩ |
      ⟨request, planned, performed, ran⟩
  all_goals rw [ran, calls_of_plan] at split
  · rw [Option.toList_none, List.map_nil, List.append_nil] at split
    obtain ⟨last, givenUp⟩ := w.last_of_failing_query honorStruts command split fails strict
    rw [planned] at givenUp
    exact ⟨last, by rw [ran, Except.error.inj givenUp]⟩
  · rw [Option.toList_none, List.map_nil, List.append_nil] at split
    obtain ⟨-, givenUp⟩ := w.last_of_failing_query honorStruts command split fails strict
    simp [planned] at givenUp
  · obtain ⟨rfl, last⟩ :=
      w.request_of_failing_call honorStruts command planned split fails strict
    have same : refusal = failure := Except.error.inj (refused.symm.trans fails)
    exact ⟨last, by rw [ran, same]⟩
  · obtain ⟨rfl, -⟩ := w.request_of_failing_call honorStruts command planned split fails strict
    exact absurd (performed.symm.trans fails) (by simp)

theorem run_blames {failure : WorkspaceError}
    (failed : (w.run honorStruts command).1.failure = some (.desktop failure)) :
    ∃ before call, (w.run honorStruts command).1.calls = before ++ [call] ∧
      w.CallFailsWith call failure ∧ ¬ command.ToleratesCall call := by
  rcases w.run_cases honorStruts command with
    ⟨reason, planned, ran⟩ | ⟨planned, ran⟩ | ⟨request, refusal, planned, refused, ran⟩ |
      ⟨request, planned, performed, ran⟩
  all_goals rw [ran] at failed
  · obtain rfl : reason = .desktop failure := Option.some.inj failed
    obtain ⟨before, query, queries, fails, strict⟩ :=
      (Desktop.heeds_plan honorStruts command).blames failure planned
    refine ⟨before.map .query, .query query, ?_, fails, strict⟩
    rw [ran, calls_of_plan, queries]
    simp
  · simp at failed
  · obtain rfl : refusal = failure := RunError.desktop.inj (Option.some.inj failed)
    exact ⟨(w.desktop.plan honorStruts command).queries.map .query, .request request,
      by rw [ran, calls_of_plan]; rfl, refused, id⟩
  · simp at failed

theorem run_unchanged (failed : (w.run honorStruts command).1.failure ≠ none) :
    (w.run honorStruts command).2 = w := by
  rcases w.run_cases honorStruts command with
    ⟨_, -, ran⟩ | ⟨-, ran⟩ | ⟨_, _, -, -, ran⟩ | ⟨_, -, -, ran⟩
  · rw [ran]
  · rw [ran]
  · rw [ran]
  · simp [ran] at failed

/-- A run that succeeds has asked for what its plan ends with, and that is what has changed. -/
theorem run_succeeds (succeeded : (w.run honorStruts command).1.failure = none) :
    ∃ outcome, (w.desktop.plan honorStruts command).result = .ok outcome ∧
      (w.run honorStruts command).1.requests = outcome.toList ∧
      (w.run honorStruts command).2 = outcome.toList.foldl carryOut w := by
  rcases w.run_cases honorStruts command with
    ⟨reason, planned, ran⟩ | ⟨planned, ran⟩ | ⟨request, refusal, planned, refused, ran⟩ |
      ⟨request, planned, performed, ran⟩
  · simp [ran] at succeeded
  · exact ⟨none, planned, by simp [ran, requests_eq], by simp [ran]⟩
  · simp [ran] at succeeded
  · exact ⟨some request, planned, by simp [ran, requests_eq], by simp [ran]⟩

/-- Every run of every command is orderly, whatever the workspace is like and whichever of its
operations fail. -/
theorem run_orderly :
    w.Orderly command (w.run honorStruts command).1 (w.run honorStruts command).2 where
  changes_once := by
    rw [requests_eq]
    cases (w.run honorStruts command).1.request <;> simp
  changes_last _ _ _ split := eq_nil_of_calls_eq split
  stops _ _ _ _ split fails strict := w.run_stops honorStruts command split fails strict
  blames _ failed := w.run_blames honorStruts command failed
  unchanged failed := w.run_unchanged honorStruts command failed
  fulfilled succeeded := by
    obtain ⟨outcome, planned, requests, -⟩ := w.run_succeeds honorStruts command succeeded
    rw [requests]
    exact w.fulfills_of_plan_eq_ok honorStruts command planned
  carried_out succeeded := by
    obtain ⟨outcome, -, requests, effect⟩ := w.run_succeeds honorStruts command succeeded
    rw [effect, requests]

end Runs

end Workspace

end WindowPlacement
