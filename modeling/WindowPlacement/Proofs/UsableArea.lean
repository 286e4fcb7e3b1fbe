import Mathlib.Data.List.Forall2
import WindowPlacement.Geometry.Strut

/-!
# The pixels of the usable area

A rectangle covers the pixels from its left to its right and from its top to its bottom edge,
without those on the right and the bottom one.  The usable area of a head covers exactly
those pixels of the head that every strut spares; none of them is reserved by any strut.
There is such an area unless one of the far edges on the way is no 32-bit number, or the edges that
are left of the head have crossed so far that the distance between them is none.
-/

namespace WindowPlacement

theorem saturate_le_iff {n bound : Int} (low : leastCoordinate ≤ bound)
    (high : bound < greatestCoordinate) : saturate n ≤ bound ↔ n ≤ bound := by
  simp only [saturate, leastCoordinate, greatestCoordinate] at *
  omega

theorem lt_saturate_iff {n bound : Int} (low : leastCoordinate ≤ bound)
    (high : bound < greatestCoordinate) : bound < saturate n ↔ bound < n := by
  rw [← Int.not_le, saturate_le_iff low high, Int.not_le]

namespace Rect

structure InRange (r : Rect) : Prop where
  left : IsCoordinate r.x
  right : IsCoordinate r.right
  top : IsCoordinate r.y
  bottom : IsCoordinate r.bottom

instance (r : Rect) : Decidable r.InRange :=
  decidable_of_iff
    (IsCoordinate r.x ∧ IsCoordinate r.right ∧ IsCoordinate r.y ∧ IsCoordinate r.bottom)
    ⟨fun ⟨left, right, top, bottom⟩ => ⟨left, right, top, bottom⟩,
      fun ⟨left, right, top, bottom⟩ => ⟨left, right, top, bottom⟩⟩

def Covers (r : Rect) (x y : Int) : Prop :=
  (r.x ≤ x ∧ x < r.right) ∧ r.y ≤ y ∧ y < r.bottom

end Rect

/-- A span goes over a pixel of the edge. -/
def Span.Reaches (span : Span) (position : Int) : Prop :=
  span = .wholeEdge ∨ span.first ≤ position ∧ position ≤ span.last

/-- A span that goes over a pixel of a stretch touches the stretch. -/
theorem Span.touches_of_reaches {span : Span} {low high position : Int}
    (within : low ≤ position ∧ position < high) (reaches : span.Reaches position) :
    span.touches low high = true := by
  rcases reaches with whole | ⟨first, last⟩
  · simp [touches, whole]
  · simp only [touches, Bool.or_eq_true, Bool.and_eq_true, decide_eq_true_eq]
    exact .inr ⟨by omega, by omega⟩

namespace Strut

/-- A strut reserves a pixel along one of the edges of the root window. -/
def Reserves (strut : Strut) (root : Rect) (x y : Int) : Prop :=
  (0 < strut.left ∧ x < root.x + strut.left ∧ strut.leftSpan.Reaches y) ∨
  (0 < strut.right ∧ root.right - strut.right ≤ x ∧ strut.rightSpan.Reaches y) ∨
  (0 < strut.top ∧ y < root.y + strut.top ∧ strut.topSpan.Reaches x) ∨
  (0 < strut.bottom ∧ root.bottom - strut.bottom ≤ y ∧ strut.bottomSpan.Reaches x)

/-- A strut leaves a pixel of a head to windows: every inset that applies to the head ends
before the pixel. -/
structure Spares (strut : Strut) (head root : Rect) (x y : Int) : Prop where
  left : 0 < strut.left ∧ strut.leftSpan.touches head.y head.bottom = true →
    saturate (root.x + strut.left) ≤ x
  right : 0 < strut.right ∧ strut.rightSpan.touches head.y head.bottom = true →
    x < saturate (root.right - strut.right)
  top : 0 < strut.top ∧ strut.topSpan.touches head.x head.right = true →
    saturate (root.y + strut.top) ≤ y
  bottom : 0 < strut.bottom ∧ strut.bottomSpan.touches head.x head.right = true →
    y < saturate (root.bottom - strut.bottom)

/-- A pixel of a head that a strut spares is not reserved by the strut. -/
theorem Spares.not_reserves {strut : Strut} {head root : Rect} {x y : Int}
    (inRange : head.InRange) (covered : head.Covers x y)
    (spares : strut.Spares head root x y) : ¬ strut.Reserves root x y := by
  obtain ⟨⟨left, right⟩, top, bottom⟩ := covered
  have horizontal : leastCoordinate ≤ x ∧ x < greatestCoordinate :=
    ⟨Int.le_trans inRange.left.1 left, Int.lt_of_lt_of_le right inRange.right.2⟩
  have vertical : leastCoordinate ≤ y ∧ y < greatestCoordinate :=
    ⟨Int.le_trans inRange.top.1 top, Int.lt_of_lt_of_le bottom inRange.bottom.2⟩
  rintro (⟨inset, reserved, reaches⟩ | ⟨inset, reserved, reaches⟩ | ⟨inset, reserved, reaches⟩ |
    ⟨inset, reserved, reaches⟩)
  · have ends := spares.left ⟨inset, Span.touches_of_reaches ⟨top, bottom⟩ reaches⟩
    rw [saturate_le_iff horizontal.1 horizontal.2] at ends
    omega
  · have starts := spares.right ⟨inset, Span.touches_of_reaches ⟨top, bottom⟩ reaches⟩
    rw [lt_saturate_iff horizontal.1 horizontal.2] at starts
    omega
  · have ends := spares.top ⟨inset, Span.touches_of_reaches ⟨left, right⟩ reaches⟩
    rw [saturate_le_iff vertical.1 vertical.2] at ends
    omega
  · have starts := spares.bottom ⟨inset, Span.touches_of_reaches ⟨left, right⟩ reaches⟩
    rw [lt_saturate_iff vertical.1 vertical.2] at starts
    omega

end Strut

namespace Edges

/-- A pixel lies between the edges. -/
def Leaves (edges : Edges) (x y : Int) : Prop :=
  (edges.left ≤ x ∧ x < edges.right) ∧ edges.top ≤ y ∧ y < edges.bottom

theorem ite_max_le_iff {applies : Prop} [Decidable applies] {edge inset x : Int} :
    (if applies then max edge inset else edge) ≤ x ↔ edge ≤ x ∧ (applies → inset ≤ x) := by
  by_cases holds : applies
  · rw [if_pos holds, Int.max_le, imp_iff_right holds]
  · rw [if_neg holds, and_iff_left fun applied => absurd applied holds]

private theorem lt_ite_min_iff {applies : Prop} [Decidable applies] {edge inset x : Int} :
    x < (if applies then min edge inset else edge) ↔ x < edge ∧ (applies → x < inset) := by
  by_cases holds : applies
  · rw [if_pos holds, Int.lt_min, imp_iff_right holds]
  · rw [if_neg holds, and_iff_left fun applied => absurd applied holds]

theorem leaves_reserve_iff {head root : Rect} {edges : Edges} {strut : Strut} {x y : Int} :
    (reserve head root edges strut).Leaves x y ↔
      edges.Leaves x y ∧ strut.Spares head root x y := by
  simp only [Leaves, reserve, ite_max_le_iff, lt_ite_min_iff]
  constructor
  · rintro ⟨⟨⟨left, keptLeft⟩, right, keptRight⟩, ⟨top, keptTop⟩, bottom, keptBottom⟩
    exact ⟨⟨⟨left, right⟩, top, bottom⟩, keptLeft, keptRight, keptTop, keptBottom⟩
  · rintro ⟨⟨⟨left, right⟩, top, bottom⟩, keptLeft, keptRight, keptTop, keptBottom⟩
    exact ⟨⟨⟨left, keptLeft⟩, right, keptRight⟩, ⟨top, keptTop⟩, bottom, keptBottom⟩

/-- Taking off some struts leaves the pixels that all of them spare. -/
theorem leaves_foldl_reserve_iff {head root : Rect} {struts : List Strut} {edges : Edges}
    {x y : Int} :
    (struts.foldl (reserve head root) edges).Leaves x y ↔
      edges.Leaves x y ∧ ∀ strut ∈ struts, strut.Spares head root x y := by
  induction struts generalizing edges with
  | nil => simp
  | cons strut struts ih =>
    rw [List.foldl_cons, ih, leaves_reserve_iff, List.forall_mem_cons, and_assoc]

/-- Every edge only ever moves inward. -/
theorem foldl_reserve_inward (head root : Rect) (struts : List Strut) (edges : Edges) :
    (edges.left ≤ (struts.foldl (reserve head root) edges).left ∧
      (struts.foldl (reserve head root) edges).right ≤ edges.right) ∧
    edges.top ≤ (struts.foldl (reserve head root) edges).top ∧
      (struts.foldl (reserve head root) edges).bottom ≤ edges.bottom := by
  induction struts generalizing edges with
  | nil => simp
  | cons strut struts ih =>
    have inward : (edges.left ≤ (reserve head root edges strut).left ∧
        (reserve head root edges strut).right ≤ edges.right) ∧
        edges.top ≤ (reserve head root edges strut).top ∧
        (reserve head root edges strut).bottom ≤ edges.bottom := by
      simp only [reserve]
      refine ⟨⟨?_, ?_⟩, ?_, ?_⟩ <;> split <;> omega
    have rest := ih (reserve head root edges strut)
    rw [List.foldl_cons]
    omega

/-- The distances between opposite edges are 32-bit numbers. -/
def IsMeasurable (edges : Edges) : Prop :=
  IsCoordinate (edges.right - edges.left) ∧ IsCoordinate (edges.bottom - edges.top)

instance (edges : Edges) : Decidable edges.IsMeasurable :=
  inferInstanceAs (Decidable (_ ∧ _))

theorem toRect_eq (edges : Edges) : edges.toRect =
    if edges.IsMeasurable then
      .ok ⟨edges.left, edges.top, max (edges.right - edges.left) 0, max (edges.bottom - edges.top) 0⟩
    else
      .error .subtraction := by
  rw [toRect, subtract, subtract]
  by_cases wide : IsCoordinate (edges.right - edges.left)
  · by_cases tall : IsCoordinate (edges.bottom - edges.top)
    · have measurable : edges.IsMeasurable := ⟨wide, tall⟩
      rw [if_pos wide, if_pos tall, if_pos measurable]
      rfl
    · have crossed : ¬edges.IsMeasurable := fun measurable => tall measurable.2
      rw [if_pos wide, if_neg tall, if_neg crossed]
      rfl
  · have crossed : ¬edges.IsMeasurable := fun measurable => wide measurable.1
    rw [if_neg wide, if_neg crossed]
    rfl

theorem toRect_eq_ok_iff {edges : Edges} {area : Rect} :
    edges.toRect = .ok area ↔ edges.IsMeasurable ∧
      area = ⟨edges.left, edges.top, max (edges.right - edges.left) 0,
        max (edges.bottom - edges.top) 0⟩ := by
  rw [toRect_eq]
  by_cases measurable : edges.IsMeasurable
  · rw [if_pos measurable, and_iff_right measurable, Except.ok.injEq, eq_comm]
  · simp [measurable]

theorem toRect_eq_error {edges : Edges} {cause : Overflow} (failed : edges.toRect = .error cause) :
    cause = .subtraction := by
  rw [toRect_eq] at failed
  split at failed
  · cases failed
  · exact (Except.error.inj failed).symm

/-- The rectangle between edges covers the pixels between them, even if they have crossed. -/
theorem covers_iff_leaves {head area : Rect} {edges : Edges}
    (made : (edges.withCornerOn head).toRect = .ok area) (right : edges.right ≤ head.right)
    (bottom : edges.bottom ≤ head.bottom) {x y : Int} : area.Covers x y ↔ edges.Leaves x y := by
  obtain ⟨-, rfl⟩ := toRect_eq_ok_iff.mp made
  simp only [withCornerOn, Rect.Covers, Rect.right, Rect.bottom, Leaves] at *
  omega

end Edges

section UsableArea

variable {root head area : Rect} {struts : List Strut}

theorem farEdgesFit_of_inRange (rootInRange : root.InRange) (inRange : head.InRange)
    (struts : List Strut) : FarEdgesFit root struts head :=
  ⟨⟨inRange.right, inRange.bottom⟩,
    fun _ _ => ⟨fun _ => rootInRange.right, fun _ => rootInRange.bottom⟩⟩

theorem FarEdgesFit.inRange (fit : FarEdgesFit root struts head)
    (corner : IsCoordinate head.x ∧ IsCoordinate head.y) : head.InRange :=
  ⟨corner.1, fit.1.1, corner.2, fit.1.2⟩

theorem usableArea_eq_ok_iff : usableArea root struts head = .ok area ↔
    FarEdgesFit root struts head ∧ (remainder root struts head).toRect = .ok area := by
  rw [usableArea]
  by_cases fit : FarEdgesFit root struts head
  · rw [if_pos fit, and_iff_right fit]
  · simp [fit]

/-- The usable area of a head covers the pixels of the head that every strut spares. -/
theorem covers_usableArea_iff (left : usableArea root struts head = .ok area) {x y : Int} :
    area.Covers x y ↔ head.Covers x y ∧ ∀ strut ∈ struts, strut.Spares head root x y := by
  have inward := Edges.foldl_reserve_inward head root struts (.ofRect head)
  rw [Edges.covers_iff_leaves (usableArea_eq_ok_iff.mp left).2 inward.1.2 inward.2.2,
    Edges.leaves_foldl_reserve_iff]
  rfl

/-- The corner of the usable area lies within the head, also if nothing is left of it. -/
theorem isCoordinate_corner_usableArea (left : usableArea root struts head = .ok area)
    (inRange : head.InRange) : IsCoordinate area.x ∧ IsCoordinate area.y := by
  have inward := Edges.foldl_reserve_inward head root struts (.ofRect head)
  obtain ⟨-, rfl⟩ := Edges.toRect_eq_ok_iff.mp (usableArea_eq_ok_iff.mp left).2
  obtain ⟨left, right, top, bottom⟩ := inRange
  simp only [remainder, Edges.withCornerOn, Edges.ofRect, IsCoordinate] at *
  omega

/-- Without struts all of a head is usable, unless its size is negative. -/
theorem eq_of_usableArea_nil (left : usableArea root [] head = .ok area) (wide : 0 ≤ head.width)
    (tall : 0 ≤ head.height) : area = head := by
  obtain ⟨-, rfl⟩ := Edges.toRect_eq_ok_iff.mp (usableArea_eq_ok_iff.mp left).2
  have atLeft : min head.x head.right = head.x := by rw [Rect.right]; omega
  have atTop : min head.y head.bottom = head.y := by rw [Rect.bottom]; omega
  have width : head.right - head.x = head.width := by rw [Rect.right]; omega
  have height : head.bottom - head.y = head.height := by rw [Rect.bottom]; omega
  simp only [remainder, List.foldl_nil, Edges.withCornerOn, Edges.ofRect, atLeft, atTop, width,
    height, Int.max_eq_left wide, Int.max_eq_left tall]

end UsableArea

section UsableAreas

variable {root head area : Rect} {struts : List Strut} {heads areas : List Rect}

/-- Struts leave areas of some heads iff they leave an area of each one of them. -/
theorem usableAreas_eq_ok_iff : usableAreas root struts heads = .ok areas ↔
    List.Forall₂ (fun head area => usableArea root struts head = .ok area) heads areas := by
  induction heads generalizing areas with
  | nil => cases areas <;> simp [usableAreas, pure, Except.pure]
  | cons head rest ih =>
    rw [usableAreas, List.mapM_cons]
    rw [usableAreas] at ih
    cases left : usableArea root struts head with
    | error cause => cases areas <;> simp [bind, Except.bind, left]
    | ok area =>
      cases others : rest.mapM (usableArea root struts) with
      | error cause => cases areas <;> simp [bind, Except.bind, ← ih, others]
      | ok areas' => cases areas <;> simp [bind, Except.bind, pure, Except.pure, ← ih, left, others]

theorem exists_usableAreas_iff : (∃ areas, usableAreas root struts heads = .ok areas) ↔
    ∀ head ∈ heads, ∃ area, usableArea root struts head = .ok area := by
  simp only [usableAreas_eq_ok_iff]
  induction heads with
  | nil => simp
  | cons head rest ih =>
    rw [List.forall_mem_cons, ← ih]
    constructor
    · rintro ⟨_, left⟩
      cases left with
      | cons first others => exact ⟨⟨_, first⟩, _, others⟩
    · rintro ⟨⟨area, first⟩, areas, others⟩
      exact ⟨area :: areas, .cons first others⟩

theorem exists_of_usableAreas_eq_error {cause : Overflow}
    (failed : usableAreas root struts heads = .error cause) :
    ∃ head ∈ heads, usableArea root struts head = .error cause := by
  induction heads with
  | nil => cases failed
  | cons head rest ih =>
    rw [usableAreas, List.mapM_cons] at failed
    cases left : usableArea root struts head with
    | error cause' =>
      rw [left] at failed
      exact ⟨head, List.mem_cons_self, Except.error.inj failed ▸ left⟩
    | ok area =>
      cases others : rest.mapM (usableArea root struts) with
      | error cause' =>
        rw [left, others] at failed
        obtain rfl : cause' = cause := Except.error.inj failed
        obtain ⟨head', member, failed'⟩ := ih others
        exact ⟨head', List.mem_cons_of_mem head member, failed'⟩
      | ok areas =>
        rw [left, others] at failed
        cases failed

theorem getElem?_eq_some_getD_usableAreas (left : usableAreas root struts heads = .ok areas)
    (index : Fin heads.length) : areas[index.val]? = some (areas.getD index (heads.get index)) := by
  have same_length := (usableAreas_eq_ok_iff.mp left).length_eq
  have inside : index.val < areas.length := same_length ▸ index.isLt
  rw [List.getD_eq_getElem?_getD, List.getElem?_eq_getElem inside, Option.getD_some]

theorem getElem?_usableAreas (left : usableAreas root struts heads = .ok areas) (index : Nat) :
    areas[index]? = heads[index]?.bind fun head => (usableArea root struts head).toOption := by
  have pairs := usableAreas_eq_ok_iff.mp left
  clear left
  induction pairs generalizing index with
  | nil => rfl
  | cons first _ ih =>
    cases index with
    | zero => simp [first, Except.toOption]
    | succ index => exact ih index

theorem usableArea_of_getElem? (left : usableAreas root struts heads = .ok areas) {index : Nat}
    (found : heads[index]? = some head) (own : areas[index]? = some area) :
    usableArea root struts head = .ok area := by
  rw [getElem?_usableAreas left, found, Option.bind_some] at own
  cases measured : usableArea root struts head with
  | error cause => simp [measured, Except.toOption] at own
  | ok area' => simpa [measured, Except.toOption] using own

end UsableAreas

end WindowPlacement
