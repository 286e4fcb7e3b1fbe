import Mathlib.Data.Set.Defs
import WindowPlacement.Proofs.Plan
import WindowPlacement.Proofs.StrutSet

/-!
# What a placement sees of a desktop

Of everything that a desktop could be asked about, a placement depends on the active window with
its frame and decorations, on the rectangle of the head that the window is on, and, if struts are
honored, on the root window and on the set of struts.  Desktops that agree on this come to the
same request or to the same failure, provided that taking the struts off all of their heads
overflows on both or on neither.
-/

namespace WindowPlacement.Desktop

variable {Failure : Type} {d other : Desktop Failure} {honorStruts : Bool}

def ownerOf (d : Desktop Failure) (window : Rect) : Except (RunError Failure) Rect :=
  match d.heads with
  | .error failure => .error (.desktop failure)
  | .ok heads =>
    match owningHead window heads with
    | .error failure => .error (.head failure)
    | .ok index => .ok (heads.get index)

def strutSet (d : Desktop Failure) : Except Failure (Set Strut) :=
  d.clientList.map fun clients =>
    {strut | ∃ client ∈ clients, d.strut client = .ok (some strut)}

def Overflows (d : Desktop Failure) (cause : Overflow) : Prop :=
  ∃ heads root clients, d.heads = .ok heads ∧ d.root = .ok root ∧ d.clientList = .ok clients ∧
    usableAreas root (clients.filterMap d.strut?) heads = .error cause

/-- What one of some heads leaves to windows, or the reason why that cannot be told. -/
def areaOf (d : Desktop Failure) (honorStruts : Bool) (heads : List Rect)
    (index : Fin heads.length) : Except (RunError Failure) Rect :=
  if honorStruts then
    match d.root, d.clientList with
    | .error failure, _ | .ok _, .error failure => .error (.desktop failure)
    | .ok root, .ok clients =>
      ((usableAreas root (clients.filterMap d.strut?) heads).map fun areas =>
        areas.getD index (heads.get index)).mapError .overflow
  else
    .ok (heads.get index)

/-- Two desktops agree on everything that a placement depends on. -/
structure LooksLike (honorStruts : Bool) (d other : Desktop Failure) : Prop where
  active : d.activeWindow = other.activeWindow
  frame : ∀ window, d.activeWindow = .ok window → d.frame window = other.frame window
  extents : ∀ window, d.activeWindow = .ok window →
    d.frameExtents window = other.frameExtents window
  owner : ∀ window frame, d.activeWindow = .ok window → d.frame window = .ok frame →
    d.ownerOf frame = other.ownerOf frame
  root : honorStruts = true → d.root = other.root
  struts : honorStruts = true → d.strutSet = other.strutSet
  overflow : honorStruts = true → ∀ cause, d.Overflows cause ↔ other.Overflows cause

theorem mem_filterMap_strut?_iff {clients : List WindowId} {strut : Strut} :
    strut ∈ clients.filterMap d.strut? ↔
      ∃ client ∈ clients, d.strut client = .ok (some strut) := by
  rw [List.mem_filterMap]
  refine exists_congr fun client => and_congr_right fun _ => ?_
  rw [strut?]
  rcases d.strut client with _ | _ | found <;> simp

/-- Client lists with the same set of struts are the same failure, or have the same struts. -/
theorem clientLists_of_strutSet_eq (same : d.strutSet = other.strutSet) :
    (∃ failure, d.clientList = .error failure ∧ other.clientList = .error failure) ∨
      ∃ clients clients', d.clientList = .ok clients ∧ other.clientList = .ok clients' ∧
        ∀ strut, strut ∈ clients.filterMap d.strut? ↔ strut ∈ clients'.filterMap other.strut? := by
  unfold strutSet at same
  rcases listed : d.clientList with failure | clients <;>
    rcases listed' : other.clientList with failure' | clients' <;>
    rw [listed, listed'] at same
  · obtain rfl := Except.error.inj same
    exact .inl ⟨failure, rfl, rfl⟩
  · cases same
  · cases same
  · refine .inr ⟨clients, clients', rfl, rfl, fun strut => ?_⟩
    rw [mem_filterMap_strut?_iff, mem_filterMap_strut?_iff]
    exact Set.ext_iff.mp (Except.ok.inj same) strut

theorem overflows_congr (heads : d.heads = other.heads) (root : d.root = other.root)
    (struts : d.strutSet = other.strutSet) (cause : Overflow) :
    d.Overflows cause ↔ other.Overflows cause := by
  rw [Overflows, Overflows, heads, root]
  rcases clientLists_of_strutSet_eq struts with
    ⟨failure, listed, listed'⟩ | ⟨clients, clients', listed, listed', members⟩
  · simp [listed, listed']
  · simp only [listed, listed', Except.ok.injEq, exists_and_left, exists_eq_left',
      usableAreas_congr_of_mem_iff members]

theorem overflows_iff {heads : List Rect} {root : Rect} {clients : List WindowId}
    (answered : d.heads = .ok heads) (rooted : d.root = .ok root)
    (listed : d.clientList = .ok clients) {cause : Overflow} :
    d.Overflows cause ↔ usableAreas root (clients.filterMap d.strut?) heads = .error cause := by
  simp only [Overflows, answered, rooted, listed, Except.ok.injEq, exists_and_left, exists_eq_left']

theorem areaOf_congr {heads heads' : List Rect} {index : Fin heads.length}
    {index' : Fin heads'.length} (answered : d.heads = .ok heads)
    (answered' : other.heads = .ok heads') (owner : heads.get index = heads'.get index')
    (root : honorStruts = true → d.root = other.root)
    (struts : honorStruts = true → d.strutSet = other.strutSet)
    (overflow : honorStruts = true → ∀ cause, d.Overflows cause ↔ other.Overflows cause) :
    d.areaOf honorStruts heads index = other.areaOf honorStruts heads' index' := by
  cases honorStruts with
  | false => exact congrArg Except.ok owner
  | true =>
    rw [areaOf, areaOf, if_pos rfl, if_pos rfl, ← root rfl]
    rcases clientLists_of_strutSet_eq (struts rfl) with
      ⟨failure, listed, listed'⟩ | ⟨clients, clients', listed, listed', members⟩
    · rw [listed, listed']
      cases d.root <;> rfl
    · cases rooted : d.root with
      | error failure => rw [listed, listed']
      | ok root' =>
        rw [listed, listed']
        have alike : ∀ cause, usableAreas root' (clients.filterMap d.strut?) heads = .error cause ↔
            usableAreas root' (clients'.filterMap other.strut?) heads' = .error cause := by
          intro cause
          rw [← overflows_iff answered rooted listed, overflow rfl cause,
            overflows_iff answered' (root rfl ▸ rooted) listed']
        exact congrArg (Except.mapError RunError.overflow)
          (getD_usableAreas_congr members owner alike)

theorem ownerOf_eq_ok_iff {window head : Rect} : d.ownerOf window = .ok head ↔
    ∃ heads index, d.heads = .ok heads ∧ owningHead window heads = .ok index ∧
      heads.get index = head := by
  rw [ownerOf]
  cases d.heads with
  | error failure => simp
  | ok heads => cases owned : owningHead window heads <;> simp [owned]

theorem result_usableHead_of_owner {window : Rect} {heads : List Rect} {index : Fin heads.length}
    (answered : d.heads = .ok heads) (owned : owningHead window heads = .ok index) :
    (d.usableHead honorStruts window).result = d.areaOf honorStruts heads index := by
  rw [usableHead, Inquiry.result_bind, answered]
  cases honorStruts with
  | false => simp [Inquiry.result_bind, owned, Except.bind, areaOf]
  | true =>
    cases rooted : d.root with
    | error failure => simp [Inquiry.result_bind, owned, rooted, Except.bind, areaOf]
    | ok root =>
      cases listed : d.clientList with
      | error failure => simp [Inquiry.result_bind, owned, rooted, listed, Except.bind, areaOf]
      | ok clients =>
        cases left : usableAreas root (clients.filterMap d.strut?) heads <;>
          simp [Inquiry.result_bind, owned, rooted, listed, Except.bind, areaOf, result_struts, left,
            Except.map]

theorem result_usableHead_of_ownerless {window : Rect} {reason : RunError Failure}
    (ownerless : d.ownerOf window = .error reason) :
    (d.usableHead honorStruts window).result = .error reason := by
  rw [ownerOf] at ownerless
  rw [usableHead, Inquiry.result_bind]
  cases answered : d.heads with
  | error failure =>
    rw [answered] at ownerless
    exact ownerless
  | ok heads =>
    rw [answered] at ownerless
    cases owned : owningHead window heads with
    | error failure => simpa [Inquiry.result_bind, owned, Except.bind] using ownerless
    | ok index => simp [owned] at ownerless

theorem result_usableHead_congr {window window' : Rect}
    (owner : d.ownerOf window = other.ownerOf window')
    (root : honorStruts = true → d.root = other.root)
    (struts : honorStruts = true → d.strutSet = other.strutSet)
    (overflow : honorStruts = true → ∀ cause, d.Overflows cause ↔ other.Overflows cause) :
    (d.usableHead honorStruts window).result = (other.usableHead honorStruts window').result := by
  cases owned : d.ownerOf window with
  | error reason =>
    rw [result_usableHead_of_ownerless owned,
      result_usableHead_of_ownerless (owner.symm.trans owned)]
  | ok head =>
    obtain ⟨heads, index, answered, onHead, rfl⟩ := ownerOf_eq_ok_iff.mp owned
    obtain ⟨heads', index', answered', onHead', same⟩ :=
      ownerOf_eq_ok_iff.mp (owner.symm.trans owned)
    rw [result_usableHead_of_owner answered onHead, result_usableHead_of_owner answered' onHead']
    exact areaOf_congr answered answered' same.symm root struts overflow

/-- A placement depends on the active window, its frame, its decorations, and its usable head,
and on nothing else about a desktop. -/
theorem result_planMoveResize_congr {honorStruts' : Bool}
    (active : d.activeWindow = other.activeWindow)
    (frame : ∀ window, d.activeWindow = .ok window → d.frame window = other.frame window)
    (extents : ∀ window, d.activeWindow = .ok window →
      d.frameExtents window = other.frameExtents window)
    (usable : ∀ window frame, d.activeWindow = .ok window → d.frame window = .ok frame →
      (d.usableHead honorStruts frame).result = (other.usableHead honorStruts' frame).result)
    (placement : Placement) :
    (d.planMoveResize honorStruts placement).result =
      (other.planMoveResize honorStruts' placement).result := by
  refine Inquiry.result_bind_congr rfl fun _ _ => ?_
  refine Inquiry.result_bind_congr (by simp [active]) fun window known => ?_
  have activated : d.activeWindow = .ok window := Inquiry.result_ask_eq_ok_iff.mp known
  refine Inquiry.result_bind_congr (by simp [frame window activated]) fun area known => ?_
  have framed : d.frame window = .ok area := Inquiry.result_ask_eq_ok_iff.mp known
  refine Inquiry.result_bind_congr (usable window area activated framed) fun head _ => ?_
  refine Inquiry.result_bind_congr (by simp [extents window activated]) fun extents _ => ?_
  -- From here on nothing is asked any more.
  rfl

theorem LooksLike.result_planMoveResize (alike : d.LooksLike honorStruts other)
    (placement : Placement) :
    (d.planMoveResize honorStruts placement).result =
      (other.planMoveResize honorStruts placement).result := by
  refine result_planMoveResize_congr alike.active alike.frame alike.extents ?_ placement
  intro window frame active framed
  exact result_usableHead_congr (alike.owner window frame active framed) alike.root alike.struts
    alike.overflow

end WindowPlacement.Desktop
