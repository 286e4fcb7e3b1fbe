import WindowPlacement.Desktop.Update
import WindowPlacement.Proofs.ActiveHead
import WindowPlacement.Proofs.Calls
import WindowPlacement.Proofs.ReservedSpace

/-!
# Workspaces that a placement cannot tell apart

A placement comes to the same on two workspaces if their answers look alike to it.  So it does
not matter why no strut of a window is read: because the question fails, because the window has
none, or because the window is not there.  Nor do the heads matter that the active window is not
on, as long as all edges are 32-bit numbers and no strut reaches too far on one of the heads.  If
struts are not honored, nothing is asked that only serves to find them.
-/

namespace WindowPlacement

namespace Desktop

variable {Failure : Type} {d other another : Desktop Failure} {window : WindowId}

/-- A desktop is like another one, except that no strut of a window is read. -/
structure Overlooks (other d : Desktop Failure) (window : WindowId) : Prop where
  active : other.activeWindow = d.activeWindow
  heads : other.heads = d.heads
  root : other.root = d.root
  frame : ∀ client, d.activeWindow = .ok client → other.frame client = d.frame client
  extents : ∀ client, d.activeWindow = .ok client →
    other.frameExtents client = d.frameExtents client
  struts : other.strutSet = d.clientList.map fun clients =>
    {strut | ∃ client ∈ clients, client ≠ window ∧ d.strut client = .ok (some strut)}

theorem Overlooks.looksLike (overlooks : other.Overlooks d window)
    (overlooks' : another.Overlooks d window) (honorStruts : Bool) :
    other.LooksLike honorStruts another where
  active := overlooks.active.trans overlooks'.active.symm
  frame client active := by
    rw [overlooks.active] at active
    rw [overlooks.frame client active, overlooks'.frame client active]
  extents client active := by
    rw [overlooks.active] at active
    rw [overlooks.extents client active, overlooks'.extents client active]
  owner _ _ _ _ := by rw [ownerOf, ownerOf, overlooks.heads, overlooks'.heads]
  root _ := overlooks.root.trans overlooks'.root.symm
  struts _ := overlooks.struts.trans overlooks'.struts.symm
  overflow _ := overflows_congr (overlooks.heads.trans overlooks'.heads.symm)
    (overlooks.root.trans overlooks'.root.symm) (overlooks.struts.trans overlooks'.struts.symm)

theorem strutSet_of_hidden (listed : other.clientList = d.clientList)
    (hidden : ∀ strut, other.strut window ≠ .ok (some strut))
    (elsewhere : ∀ client, client ≠ window → other.strut client = d.strut client) :
    other.strutSet = d.clientList.map fun clients =>
      {strut | ∃ client ∈ clients, client ≠ window ∧ d.strut client = .ok (some strut)} := by
  rw [strutSet, listed]
  congr 1
  funext clients
  ext strut
  refine exists_congr fun client => and_congr_right fun _ => ?_
  by_cases same : client = window
  · simp [same, hidden]
  · simp [same, elsewhere client same]

theorem areaOf_eq_of_no_strut {root : Rect} {clients : List WindowId} {heads : List Rect}
    {index : Fin heads.length} (answered : d.heads = .ok heads) (rooted : d.root = .ok root)
    (listed : d.clientList = .ok clients) (strutless : ∀ client ∈ clients, d.strut? client = none)
    (fits : ∀ cause, ¬d.Overflows cause)
    (sized : 0 ≤ (heads.get index).width ∧ 0 ≤ (heads.get index).height) :
    d.areaOf true heads index = .ok (heads.get index) := by
  have no_strut : clients.filterMap d.strut? = [] := List.filterMap_eq_nil_iff.mpr strutless
  cases left : usableAreas root (clients.filterMap d.strut?) heads with
  | error cause => exact absurd ((overflows_iff answered rooted listed).mpr left) (fits cause)
  | ok areas =>
    have own := usableArea_of_getElem? left (List.getElem?_eq_getElem index.isLt)
      (getElem?_eq_some_getD_usableAreas left index)
    rw [no_strut] at own
    rw [areaOf, if_pos rfl, rooted, listed]
    simp only [left, Except.map, Inquiry.mapError_ok]
    exact congrArg Except.ok (eq_of_usableArea_nil own sized.1 sized.2)

end Desktop

/-- A question only serves to find the space that struts reserve. -/
def Query.ConcernsStruts : Query → Prop
  | .root | .clientList | .strut _ => True
  | _ => False

namespace Desktop

variable {Failure : Type} {d : Desktop Failure}

open Inquiry

theorem asksOnly_noteUnbounded {allowed : Query → Prop} (values : List (Expression × Float)) :
    (noteUnbounded values : Inquiry Failure Unit).AsksOnly allowed := by
  induction values with
  | nil => exact asksOnly_of_queries_eq_nil rfl
  | cons value rest ih => exact (asksOnly_of_queries_eq_nil rfl).bind fun _ _ => ih

theorem asksOnly_usableHead (window : Rect) :
    (d.usableHead false window).AsksOnly fun query => ¬ query.ConcernsStruts := by
  refine (asksOnly_ask _ not_false).bind fun heads _ => ?_
  refine (asksOnly_of_queries_eq_nil rfl).bind fun index _ => ?_
  exact asksOnly_of_queries_eq_nil rfl

/-- A placement that does not honor struts asks for nothing that concerns them. -/
theorem asksOnly_planMoveResize (placement : Placement) :
    (d.planMoveResize false placement).AsksOnly fun query => ¬ query.ConcernsStruts := by
  refine (asksOnly_of_queries_eq_nil rfl).bind fun _ _ => ?_
  refine (asksOnly_ask _ not_false).bind fun window _ => ?_
  refine (asksOnly_ask _ not_false).bind fun frame _ => ?_
  refine (asksOnly_usableHead frame).bind fun head _ => ?_
  refine (asksOnly_ask _ not_false).bind fun extents _ => ?_
  refine (asksOnly_noteUnbounded _).bind fun _ _ => ?_
  refine (asksOnly_of_queries_eq_nil rfl).bind fun target _ => ?_
  exact (asksOnly_of_queries_eq_nil rfl).bind fun _ _ => asksOnly_of_queries_eq_nil rfl

end Desktop

namespace Workspace

section Outcomes

/-- Two runs made the same request, or both made none and failed for the same reason. -/
def Report.SameOutcome (report other : Report) : Prop :=
  report.request = other.request ∧ (report.request = none → report.failure = other.failure)

theorem sameOutcome_of_result_eq {w other : Workspace} {honorStruts honorStruts' : Bool}
    {placement : Placement}
    (same : (w.desktop.planMoveResize honorStruts placement).result =
      (other.desktop.planMoveResize honorStruts' placement).result) :
    (w.run honorStruts (.moveResize placement)).1.SameOutcome
      (other.run honorStruts' (.moveResize placement)).1 := by
  have planned : (w.desktop.plan honorStruts (.moveResize placement)).result =
      (other.desktop.plan honorStruts' (.moveResize placement)).result :=
    Inquiry.result_map_congr same some
  rcases w.run_cases honorStruts (.moveResize placement) with
    ⟨reason, ended, ran⟩ | ⟨ended, ran⟩ | ⟨request, _, ended, -, ran⟩ | ⟨request, ended, -, ran⟩
  all_goals
    rw [ended] at planned
    rw [ran]
  · simp only [run, ← planned]
    exact ⟨rfl, fun _ => rfl⟩
  · simp only [run, ← planned]
    exact ⟨rfl, fun _ => rfl⟩
  -- Whether the request is carried out is not part of the outcome.
  all_goals
    refine ⟨?_, fun unasked => absurd unasked (Option.some_ne_none request)⟩
    simp only [run, ← planned]
    cases other.perform request <;> rfl

end Outcomes

section Overlooking

variable {w : Workspace} {window : WindowId}

def withStrutFault (w : Workspace) (window : WindowId) : Workspace :=
  { w with faults := ("strut" ++ ":" ++ toString window) :: w.faults }

def withoutStrut (w : Workspace) (window : WindowId) : Workspace :=
  w.modify window fun found => { found with strut := none }

theorem strut_fault_ne_operation (window : WindowId) (query : Query) :
    "strut" ++ ":" ++ toString window ≠ query.operation := by
  -- The name of an operation has no colon in it.
  intro same
  have colon : ':' ∈ ("strut" ++ ":" ++ toString window).toList := by simp
  rw [same] at colon
  cases query <;> simp [Query.operation] at colon

theorem strut_fault_eq_iff (window : WindowId) {asked : WindowId} {query : Query}
    (about : query.window? = some asked) :
    "strut" ++ ":" ++ toString window = query.operation ++ ":" ++ toString asked ↔
      query = .strut window := by
  constructor
  · intro same
    have characters := congrArg String.toList same
    cases query with
    | strut client =>
      obtain rfl : client = asked := Option.some.inj about
      have digits : Nat.toDigits 10 window = Nat.toDigits 10 client := by
        simpa [Query.operation] using characters
      have number := congrArg (Nat.ofDigitChars 10 · 0) digits
      rw [Nat.ofDigitChars_ten_toDigits, Nat.ofDigitChars_ten_toDigits] at number
      rw [number]
    | _ => simp [Query.operation] at characters
  · rintro rfl
    obtain rfl : window = asked := Option.some.inj about
    rfl

theorem isFaulty_withStrutFault {query : Query} (differs : query ≠ .strut window) :
    (w.withStrutFault window).isFaulty query.operation query.window? =
      w.isFaulty query.operation query.window? := by
  have not_all := beq_false_of_ne (strut_fault_ne_operation window query).symm
  cases about : query.window? with
  | none => simp only [isFaulty, withStrutFault, List.contains_cons, not_all, Bool.false_or]
  | some asked =>
    have not_one := beq_false_of_ne fun same =>
      differs ((strut_fault_eq_iff window about).mp same.symm)
    simp only [isFaulty, withStrutFault, List.contains_cons, not_all, not_one, Bool.false_or]

theorem guarded_withStrutFault {α : Type} {query : Query} (differs : query ≠ .strut window)
    (answer : Except WorkspaceError α) :
    (w.withStrutFault window).guarded query answer = w.guarded query answer := by
  rw [guarded, guarded, isFaulty_withStrutFault differs]

theorem overlooks_withStrutFault (w : Workspace) (window : WindowId) :
    (w.withStrutFault window).desktop.Overlooks w.desktop window where
  active := guarded_withStrutFault (by simp) _
  heads := guarded_withStrutFault (by simp) _
  root := guarded_withStrutFault (by simp) _
  frame _ _ := guarded_withStrutFault (by simp) _
  extents _ _ := guarded_withStrutFault (by simp) _
  struts := by
    refine Desktop.strutSet_of_hidden (guarded_withStrutFault (by simp) _) ?_ ?_
    · intro strut
      have faulty : (w.withStrutFault window).isFaulty (Query.strut window).operation
          (Query.strut window).window? = true := by
        simp [isFaulty, withStrutFault, Query.operation, Query.window?]
      simp [desktop, guarded, faulty]
    · intro client differs
      exact guarded_withStrutFault (by simp [differs]) _

theorem about_withoutStrut {α : Type} {answer : ManagedWindow → α} {asked : WindowId}
    (blind : asked = window →
      ∀ found : ManagedWindow, answer { found with strut := none } = answer found) :
    (w.withoutStrut window).about asked answer = w.about asked answer :=
  w.about_modify window (fun found => { found with strut := none }) (fun _ => rfl) blind

theorem overlooks_withoutStrut (w : Workspace) (window : WindowId) :
    (w.withoutStrut window).desktop.Overlooks w.desktop window where
  active := rfl
  heads := rfl
  root := rfl
  frame client _ := congrArg (w.guarded (.frame client))
    (about_withoutStrut fun _ _ => rfl)
  extents client _ := congrArg (w.guarded (.frameExtents client))
    (about_withoutStrut fun _ _ => rfl)
  struts := by
    refine Desktop.strutSet_of_hidden ?_ ?_ ?_
    · exact congrArg (fun clients => w.guarded .clientList (.ok clients))
        (w.ids_modify window (fun found => { found with strut := none }) fun _ => rfl)
    · intro strut answered
      obtain ⟨found, known, declared⟩ := find?_of_answer answered
      rw [withoutStrut, find?_modify w window (fun found => { found with strut := none })
        fun _ => rfl] at known
      obtain ⟨found', -, rfl⟩ := Option.map_eq_some_iff.mp known
      exact Option.some_ne_none strut declared.symm
    · intro client differs
      exact congrArg (w.guarded (.strut client))
        (about_withoutStrut fun same => absurd same differs)

theorem find?_remove (w : Workspace) {window asked : WindowId} (differs : asked ≠ window) :
    (w.remove window).find? asked = w.find? asked := by
  rw [find?, find?, remove, List.find?_filter]
  congr 1
  funext candidate
  by_cases about : candidate.id = asked <;> simp [about, differs]

theorem about_remove {α : Type} {asked : WindowId} (differs : asked ≠ window)
    (answer : ManagedWindow → α) : (w.remove window).about asked answer = w.about asked answer := by
  rw [about, about, find?_remove w differs]

theorem strutSet_remove (w : Workspace) (window : WindowId) :
    (w.remove window).desktop.strutSet = w.desktop.clientList.map fun clients =>
      {strut | ∃ client ∈ clients, client ≠ window ∧
        w.desktop.strut client = .ok (some strut)} := by
  have ids : (w.remove window).windows.map ManagedWindow.id =
      (w.windows.map ManagedWindow.id).filter (· ≠ window) := by
    rw [remove, List.filter_map]
    rfl
  have listed : (w.remove window).desktop.clientList =
      w.desktop.clientList.map (List.filter (· ≠ window)) := by
    change w.guarded .clientList (.ok ((w.remove window).windows.map ManagedWindow.id)) =
      (w.guarded .clientList (.ok (w.windows.map ManagedWindow.id))).map _
    rw [ids, guarded, guarded]
    split <;> rfl
  rw [Desktop.strutSet, listed]
  cases w.desktop.clientList with
  | error failure => rfl
  | ok clients =>
    refine congrArg Except.ok (Set.ext fun strut => exists_congr fun client => ?_)
    rw [List.mem_filter, decide_eq_true_eq, and_assoc]
    refine and_congr_right fun _ => and_congr_right fun differs => ?_
    exact iff_of_eq (congrArg (w.guarded (.strut client) · = .ok (some strut))
      (about_remove differs _))

theorem overlooks_remove (w : Workspace) {window : WindowId} (inactive : w.active ≠ some window) :
    (w.remove window).desktop.Overlooks w.desktop window := by
  have differs {client : WindowId} (active : w.desktop.activeWindow = .ok client) :
      client ≠ window := fun same => inactive (same ▸ active_eq_of_answer active)
  refine ⟨rfl, rfl, rfl, ?_, ?_, ?_⟩
  · intro client active
    exact congrArg (w.guarded (.frame client)) (about_remove (differs active) _)
  · intro client active
    exact congrArg (w.guarded (.frameExtents client)) (about_remove (differs active) _)
  · exact strutSet_remove w window

end Overlooking

section OtherHeads

variable {w : Workspace} {head : Rect}

theorem looksLike_of_owner?_eq {heads : List Rect} {honorStruts : Bool}
    (owner : w.owner? = some head) (owner' : { w with heads := heads }.owner? = some head)
    (overflow : honorStruts = true → ∀ cause,
      w.desktop.Overflows cause ↔ { w with heads := heads }.desktop.Overflows cause) :
    w.desktop.LooksLike honorStruts { w with heads := heads }.desktop where
  active := rfl
  frame _ _ := rfl
  extents _ _ := rfl
  owner window frame active framed := by
    have ours := ownerOf_of_owner? active framed owner
    have theirs := ownerOf_of_owner? (w := { w with heads := heads }) active framed owner'
    rw [ours, theirs]
    rfl
  root _ := rfl
  struts _ := rfl
  overflow := overflow

end OtherHeads

/-- What a placement reads of a workspace, as far as its outcome depends on it.  Another workspace
may differ in all that a placement does not see; its heads may be other ones, if all of them have
edges that are 32-bit numbers.  A strut that cannot be read is as good as none, and a window without
a strut is as good as none.  Of the heads, the rectangle of the one matters that the active window is
on, and of the others only whether taking the struts off them overflows.  To honor struts makes no
difference where there are none, and struts that are not honored are not asked for. -/
structure ReadsOnly (w : Workspace) (placement : Placement) : Prop where
  alike : ∀ (other : Workspace) honorStruts, w.desktop.LooksLike honorStruts other.desktop →
    (w.heads = other.heads ∨ ∀ head ∈ w.heads ++ other.heads, head.InRange) →
      (w.run honorStruts (.moveResize placement)).1.SameOutcome
        (other.run honorStruts (.moveResize placement)).1
  unreadable : ∀ window honorStruts,
    ((w.withStrutFault window).run honorStruts (.moveResize placement)).1.SameOutcome
      ((w.withoutStrut window).run honorStruts (.moveResize placement)).1
  absent : ∀ window honorStruts, w.active ≠ some window →
    ((w.withoutStrut window).run honorStruts (.moveResize placement)).1.SameOutcome
      ((w.remove window).run honorStruts (.moveResize placement)).1
  otherHeads : ∀ heads head honorStruts, (∀ other ∈ w.heads ++ heads, other.InRange) →
    w.owner? = some head → { w with heads := heads }.owner? = some head →
      (honorStruts = true → ∀ cause,
        w.desktop.Overflows cause ↔ { w with heads := heads }.desktop.Overflows cause) →
      (w.run honorStruts (.moveResize placement)).1.SameOutcome
        ({ w with heads := heads }.run honorStruts (.moveResize placement)).1
  strutless : ∀ root clients, w.desktop.root = .ok root → w.desktop.clientList = .ok clients →
    (∀ client ∈ clients, w.desktop.strut? client = none) →
      (∀ cause, ¬w.desktop.Overflows cause) →
        (∀ head, w.owner? = some head → 0 ≤ head.width ∧ 0 ≤ head.height) →
          (w.run false (.moveResize placement)).1.SameOutcome
            (w.run true (.moveResize placement)).1
  silent : ∀ query, .query query ∈ (w.run false (.moveResize placement)).1.calls →
    ¬ query.ConcernsStruts

theorem sameOutcome_of_no_strut {w : Workspace} {root : Rect} {clients : List WindowId}
    (rooted : w.desktop.root = .ok root) (listed : w.desktop.clientList = .ok clients)
    (strutless : ∀ client ∈ clients, w.desktop.strut? client = none)
    (fits : ∀ cause, ¬w.desktop.Overflows cause)
    (sized : ∀ head, w.owner? = some head → 0 ≤ head.width ∧ 0 ≤ head.height)
    (placement : Placement) :
    (w.run false (.moveResize placement)).1.SameOutcome
      (w.run true (.moveResize placement)).1 := by
  apply sameOutcome_of_result_eq
  refine Desktop.result_planMoveResize_congr rfl (fun _ _ => rfl) (fun _ _ => rfl) ?_ placement
  intro window frame active framed
  cases owner : w.desktop.ownerOf frame with
  | error reason =>
    rw [Desktop.result_usableHead_of_ownerless owner, Desktop.result_usableHead_of_ownerless owner]
  | ok head =>
    have size := sized head (owner?_of_ownerOf active framed owner)
    obtain ⟨heads, index, answered, owned, rfl⟩ := Desktop.ownerOf_eq_ok_iff.mp owner
    obtain rfl := heads_eq_of_answer answered
    rw [Desktop.result_usableHead_of_owner answered owned,
      Desktop.result_usableHead_of_owner answered owned,
      Desktop.areaOf_eq_of_no_strut answered rooted listed strutless fits size]
    rfl

theorem queries_of_run {w : Workspace} {honorStruts : Bool} {command : Command} {query : Query}
    (called : .query query ∈ (w.run honorStruts command).1.calls) :
    query ∈ (w.desktop.plan honorStruts command).queries := by
  rcases w.run_cases honorStruts command with
    ⟨_, -, ran⟩ | ⟨-, ran⟩ | ⟨_, _, -, -, ran⟩ | ⟨_, -, -, ran⟩ <;>
    rw [ran, calls_of_plan] at called <;> simpa using called

/-- The outcome of a placement depends on nothing but what a placement sees: not on windows
without a readable strut, not on where other heads are, and not on any strut if struts are not
honored. -/
theorem run_reads_only (w : Workspace) (placement : Placement) : w.ReadsOnly placement where
  alike _ _ alike _ := sameOutcome_of_result_eq (alike.result_planMoveResize placement)
  unreadable window honorStruts :=
    sameOutcome_of_result_eq (((w.overlooks_withStrutFault window).looksLike
      (w.overlooks_withoutStrut window) honorStruts).result_planMoveResize placement)
  absent window honorStruts inactive :=
    sameOutcome_of_result_eq (((w.overlooks_withoutStrut window).looksLike
      (w.overlooks_remove inactive) honorStruts).result_planMoveResize placement)
  otherHeads _ _ _ _ owner owner' overflow :=
    sameOutcome_of_result_eq
      ((looksLike_of_owner?_eq owner owner' overflow).result_planMoveResize placement)
  strutless _ _ rooted listed strutless fits sized :=
    sameOutcome_of_no_strut rooted listed strutless fits sized placement
  silent query called := by
    have asks : (w.desktop.plan false (.moveResize placement)).AsksOnly
        fun query => ¬ query.ConcernsStruts :=
      (Desktop.asksOnly_planMoveResize placement).bind fun _ _ =>
        Inquiry.asksOnly_of_queries_eq_nil rfl
    exact asks query (queries_of_run called)

/-- The editor is on the second head, which might as well be the only one; the strut of the
sidebar cannot be read, so without the panel there is none. -/
theorem withPanel_reads_only :
    let onSecond : Workspace := { withPanel with heads := [⟨2560, 0, 1920, 1080⟩] }
    let unpanelled := withPanel.remove 2
    (∀ head ∈ withPanel.heads ++ onSecond.heads, head.InRange) ∧
      withPanel.owner? = some ⟨2560, 0, 1920, 1080⟩ ∧ onSecond.owner? = some ⟨2560, 0, 1920, 1080⟩ ∧
      (∀ cause, withPanel.desktop.Overflows cause ↔ onSecond.desktop.Overflows cause) ∧
      (withPanel.run true (.moveResize rightHalf)).1.SameOutcome
        (onSecond.run true (.moveResize rightHalf)).1 ∧
      withPanel.active ≠ some 2 ∧
      ((withPanel.withoutStrut 2).run true (.moveResize rightHalf)).1.SameOutcome
        (unpanelled.run true (.moveResize rightHalf)).1 ∧
      unpanelled.desktop.root = .ok ⟨0, 0, 4480, 1440⟩ ∧
      unpanelled.desktop.clientList = .ok [1, 3] ∧
      (∀ client ∈ [1, 3], unpanelled.desktop.strut? client = none) ∧
      (∀ cause, ¬unpanelled.desktop.Overflows cause) ∧
      (unpanelled.run false (.moveResize rightHalf)).1.SameOutcome
        (unpanelled.run true (.moveResize rightHalf)).1 := by
  intro onSecond unpanelled
  have reads := run_reads_only withPanel rightHalf
  have alike : ∀ cause, withPanel.desktop.Overflows cause ↔ onSecond.desktop.Overflows cause := by
    intro cause
    rw [Desktop.overflows_iff (d := withPanel.desktop) rfl rfl rfl,
      Desktop.overflows_iff (d := onSecond.desktop) rfl rfl rfl]
    cases cause <;> decide
  have strutless : ∀ client ∈ [1, 3], unpanelled.desktop.strut? client = none := by decide
  have fits : ∀ cause, ¬unpanelled.desktop.Overflows cause := by
    intro cause
    rw [Desktop.overflows_iff (d := unpanelled.desktop) rfl rfl rfl]
    cases cause <;> decide
  have owner : unpanelled.owner? = some ⟨2560, 0, 1920, 1080⟩ := rfl
  have inRange : ∀ head ∈ withPanel.heads ++ onSecond.heads, head.InRange := by decide
  refine ⟨inRange, rfl, rfl, alike, reads.otherHeads _ _ true inRange rfl rfl fun _ => alike,
    by decide, reads.absent 2 true (by decide), rfl, rfl, strutless, fits, ?_⟩
  refine (run_reads_only unpanelled rightHalf).strutless _ _ rfl rfl strutless fits ?_
  intro head owned
  obtain rfl := Option.some.inj (owner.symm.trans owned)
  decide

/-- A head between the columns 4 and 0: nothing of it is left once its size is not negative. -/
def reversedHead : Workspace where
  root := ⟨0, 0, 8, 6⟩
  heads := [⟨4, 0, -4, 6⟩]
  active := some 1
  windows := [⟨1, ⟨1, 1, 2, 2⟩, .zero, none, none, false, false⟩]
  stacking := [1]
  faults := []

/-- On a head of negative width it makes a difference to honor struts, although there are none:
the area in which windows are placed starts at the other end of the head. -/
theorem reversedHead_tells_apart :
    reversedHead.faults = [] ∧ (∀ window ∈ reversedHead.windows, window.strut = none) ∧
      let atLeft : Placement := ⟨some (.constant 0), none, none, none⟩
      (reversedHead.run true (.moveResize atLeft)).1.request =
          some (.moveResize 1 ⟨0, 1, 2, 2⟩) ∧
        (reversedHead.run false (.moveResize atLeft)).1.request =
          some (.moveResize 1 ⟨4, 1, 2, 2⟩) ∧
        ¬ (reversedHead.run false (.moveResize atLeft)).1.SameOutcome
          (reversedHead.run true (.moveResize atLeft)).1 := by
  refine ⟨rfl, by decide, rfl, rfl, ?_⟩
  rintro ⟨same, -⟩
  have corners : (some (.moveResize 1 ⟨4, 1, 2, 2⟩) : Option Request) =
      some (.moveResize 1 ⟨0, 1, 2, 2⟩) := same
  exact absurd corners (by decide)

end Workspace

end WindowPlacement
