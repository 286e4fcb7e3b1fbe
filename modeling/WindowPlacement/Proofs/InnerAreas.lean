import Mathlib.Data.List.Forall2
import WindowPlacement.Proofs.StrutSet

/-!
# Areas inside their heads

What struts leave of a head lies inside it, and further struts make it neither wider nor taller,
also where struts from opposite sides cross.  But the distance between edges that have crossed has
to be a 32-bit number: if a strut reaches further than that past the corner of an area, taking the
struts off comes to nothing.  Nor does it come to anything if a far edge that insets count from is
no 32-bit number itself.
-/

namespace WindowPlacement

/-- The corner and the sizes of a rectangle are 32-bit numbers, and its sizes not negative. -/
structure Rect.IsSized (r : Rect) : Prop where
  corner : IsCoordinate r.x ∧ IsCoordinate r.y
  width : 0 ≤ r.width ∧ r.width ≤ greatestCoordinate
  height : 0 ≤ r.height ∧ r.height ≤ greatestCoordinate

instance (r : Rect) : Decidable r.IsSized :=
  decidable_of_iff ((IsCoordinate r.x ∧ IsCoordinate r.y) ∧
      (0 ≤ r.width ∧ r.width ≤ greatestCoordinate) ∧
      0 ≤ r.height ∧ r.height ≤ greatestCoordinate)
    ⟨fun ⟨corner, width, height⟩ => ⟨corner, width, height⟩,
      fun ⟨corner, width, height⟩ => ⟨corner, width, height⟩⟩

/-- An area lies inside a head. -/
structure Rect.IsInside (area head : Rect) : Prop where
  wide : 0 ≤ area.width
  tall : 0 ≤ area.height
  contained : head.containsRect area = true

/-- A strut reaches from the right no further than to a column, and from below no further than to
a row. -/
structure Strut.EndsBehind (strut : Strut) (head root : Rect) (column row : Int) : Prop where
  right : 0 < strut.right ∧ strut.rightSpan.touches head.y head.bottom = true →
    column ≤ saturate (root.right - strut.right)
  bottom : 0 < strut.bottom ∧ strut.bottomSpan.touches head.x head.right = true →
    row ≤ saturate (root.bottom - strut.bottom)

namespace Edges

variable {head root : Rect} {edges : Edges} {struts more : List Strut}

theorem far_foldl_reserve_iff {column row : Int} :
    (column ≤ (struts.foldl (reserve head root) edges).right ∧
        row ≤ (struts.foldl (reserve head root) edges).bottom) ↔
      (column ≤ edges.right ∧ row ≤ edges.bottom) ∧
        ∀ strut ∈ struts, strut.EndsBehind head root column row := by
  induction struts generalizing edges with
  | nil => simp
  | cons strut struts ih =>
    rw [List.foldl_cons, ih, List.forall_mem_cons, ← and_assoc]
    refine and_congr_left fun _ => ?_
    rw [reserve, le_ite_min_iff, le_ite_min_iff]
    constructor
    · rintro ⟨⟨right, endsRight⟩, bottom, endsBottom⟩
      exact ⟨⟨right, bottom⟩, endsRight, endsBottom⟩
    · rintro ⟨⟨right, bottom⟩, endsRight, endsBottom⟩
      exact ⟨⟨right, endsRight⟩, bottom, endsBottom⟩

theorem foldl_reserve_le_of_subset (head root : Rect) (edges : Edges) (subset : struts ⊆ more) :
    more.foldl (reserve head root) edges ≤ struts.foldl (reserve head root) edges := by
  obtain ⟨within, admitted⟩ := le_foldl_reserve_iff.mp (le_refl (more.foldl _ edges))
  exact le_foldl_reserve_iff.mpr ⟨within, fun strut member => admitted strut (subset member)⟩

theorem isMeasurable_iff_of_le (sized : head.IsSized) (within : edges ≤ ofRect head) :
    (edges.withCornerOn head).IsMeasurable ↔
      leastCoordinate + (edges.withCornerOn head).left ≤ edges.right ∧
        leastCoordinate + (edges.withCornerOn head).top ≤ edges.bottom := by
  obtain ⟨left, right, top, bottom⟩ := within
  obtain ⟨-, width, height⟩ := sized
  simp only [IsMeasurable, IsCoordinate, ofRect, withCornerOn, Rect.right, Rect.bottom] at *
  omega

/-- Edges further outside can be measured too, because they are less far across each other. -/
theorem isMeasurable_of_le {inner : Edges} (sized : head.IsSized) (within : edges ≤ ofRect head)
    (inside : inner ≤ edges) (measurable : (inner.withCornerOn head).IsMeasurable) :
    (edges.withCornerOn head).IsMeasurable := by
  rw [isMeasurable_iff_of_le sized (inside.trans within)] at measurable
  rw [isMeasurable_iff_of_le sized within]
  obtain ⟨left, right, top, bottom⟩ := inside
  simp only [withCornerOn] at *
  omega

end Edges

section UsableAreas

variable {root head area smaller : Rect} {struts more others : List Strut}
  {heads areas areas' : List Rect}

theorem foldl_reserve_le_ofRect (root head : Rect) (struts : List Strut) :
    struts.foldl (Edges.reserve head root) (.ofRect head) ≤ .ofRect head :=
  (Edges.le_foldl_reserve_iff.mp le_rfl).1

theorem FarEdgesFit.of_subset (subset : struts ⊆ more) (fit : FarEdgesFit root more head) :
    FarEdgesFit root struts head :=
  ⟨fit.1, fun strut member => fit.2 strut (subset member)⟩

theorem exists_usableArea_iff : (∃ area, usableArea root struts head = .ok area) ↔
    FarEdgesFit root struts head ∧ (remainder root struts head).IsMeasurable := by
  simp only [usableArea_eq_ok_iff, Edges.toRect_eq_ok_iff, exists_and_left, exists_eq, and_true]

theorem usableArea_isInside (left : usableArea root struts head = .ok area)
    (wide : 0 ≤ head.width) (tall : 0 ≤ head.height) : area.IsInside head := by
  obtain ⟨-, rfl⟩ := Edges.toRect_eq_ok_iff.mp (usableArea_eq_ok_iff.mp left).2
  obtain ⟨left, right, top, bottom⟩ := foldl_reserve_le_ofRect root head struts
  constructor
  · exact Int.le_max_right _ _
  · exact Int.le_max_right _ _
  · rw [Rect.containsRect_iff]
    simp only [remainder, Edges.withCornerOn, Edges.ofRect, Rect.right, Rect.bottom] at *
    omega

theorem usableArea_narrows (subset : struts ⊆ more)
    (left : usableArea root more head = .ok smaller)
    (left' : usableArea root struts head = .ok area) :
    smaller.width ≤ area.width ∧ smaller.height ≤ area.height := by
  obtain ⟨-, rfl⟩ := Edges.toRect_eq_ok_iff.mp (usableArea_eq_ok_iff.mp left).2
  obtain ⟨-, rfl⟩ := Edges.toRect_eq_ok_iff.mp (usableArea_eq_ok_iff.mp left').2
  obtain ⟨left, right, top, bottom⟩ :=
    Edges.foldl_reserve_le_of_subset head root (.ofRect head) subset
  simp only [remainder, Edges.withCornerOn]
  omega

/-- No strut reaches so far past the corner of what is left of a head that the way back is no
32-bit number. -/
def WithinReach (root : Rect) (struts : List Strut) (head : Rect) : Prop :=
  ∀ strut ∈ struts, strut.EndsBehind head root
    (leastCoordinate + (remainder root struts head).left)
    (leastCoordinate + (remainder root struts head).top)

theorem exists_usableArea_iff_withinReach (sized : head.IsSized) :
    (∃ area, usableArea root struts head = .ok area) ↔
      FarEdgesFit root struts head ∧ WithinReach root struts head := by
  -- The corner is not behind the far edges of the head itself.
  have corner : leastCoordinate + (remainder root struts head).left ≤ head.right ∧
      leastCoordinate + (remainder root struts head).top ≤ head.bottom := by
    simp only [remainder, Edges.withCornerOn, leastCoordinate]
    omega
  rw [exists_usableArea_iff, remainder,
    Edges.isMeasurable_iff_of_le sized (foldl_reserve_le_ofRect root head struts),
    Edges.far_foldl_reserve_iff]
  exact and_congr_right fun _ => and_iff_right corner

/-- On the root window, struts with insets of at most `2 ^ 31` do not reach too far. -/
theorem withinReach_of_insets_le (rootInRange : root.InRange) (onRoot : head.right ≤ root.right ∧
    head.bottom ≤ root.bottom) (thin : ∀ strut ∈ struts,
      strut.right ≤ 2147483648 ∧ strut.bottom ≤ 2147483648) : WithinReach root struts head := by
  intro strut member
  obtain ⟨right, bottom⟩ := thin strut member
  obtain ⟨-, rootRight, -, rootBottom⟩ := rootInRange
  constructor
  all_goals
    intro _
    simp only [remainder, Edges.withCornerOn, IsCoordinate, saturate, leastCoordinate,
      greatestCoordinate] at *
    omega

theorem exists_usableAreas_iff_withinReach (sized : ∀ head ∈ heads, head.IsSized) :
    (∃ areas, usableAreas root struts heads = .ok areas) ↔
      ∀ head ∈ heads, FarEdgesFit root struts head ∧ WithinReach root struts head := by
  rw [exists_usableAreas_iff]
  exact forall₂_congr fun head member => exists_usableArea_iff_withinReach (sized head member)

theorem exists_usableAreas_iff_of_inRange (rootInRange : root.InRange)
    (inRange : ∀ head ∈ heads, head.InRange) (sized : ∀ head ∈ heads, head.IsSized) :
    (∃ areas, usableAreas root struts heads = .ok areas) ↔
      ∀ head ∈ heads, WithinReach root struts head := by
  rw [exists_usableAreas_iff_withinReach sized]
  refine forall₂_congr fun head member => and_iff_right ?_
  exact farEdgesFit_of_inRange rootInRange (inRange head member) struts

theorem usableAreas_eq_error_of_inRange (rootInRange : root.InRange)
    (inRange : ∀ head ∈ heads, head.InRange) {cause : Overflow}
    (failed : usableAreas root struts heads = .error cause) : cause = .subtraction := by
  obtain ⟨head, member, failed'⟩ := exists_of_usableAreas_eq_error failed
  rw [usableArea, if_pos (farEdgesFit_of_inRange rootInRange (inRange head member) struts)]
    at failed'
  exact Edges.toRect_eq_error failed'

theorem exists_usableAreas_of_le (sized : ∀ head ∈ heads, head.IsSized)
    (fit : ∀ head, FarEdgesFit root more head → FarEdgesFit root struts head)
    (less : ∀ head, more.foldl (Edges.reserve head root) (.ofRect head) ≤
      struts.foldl (Edges.reserve head root) (.ofRect head))
    (left : usableAreas root more heads = .ok areas) :
    ∃ areas, usableAreas root struts heads = .ok areas := by
  refine exists_usableAreas_iff.mpr fun head member => exists_usableArea_iff.mpr ?_
  obtain ⟨fits, measurable⟩ :=
    exists_usableArea_iff.mp (exists_usableAreas_iff.mp ⟨areas, left⟩ head member)
  exact ⟨fit head fits, Edges.isMeasurable_of_le (sized head member)
    (foldl_reserve_le_ofRect root head struts) (less head) measurable⟩

/-- Fewer struts leave areas where more of them do. -/
theorem exists_usableAreas_of_subset (sized : ∀ head ∈ heads, head.IsSized)
    (subset : struts ⊆ more) (left : usableAreas root more heads = .ok areas) :
    ∃ areas, usableAreas root struts heads = .ok areas :=
  exists_usableAreas_of_le sized (fun _ => FarEdgesFit.of_subset subset)
    (fun head => Edges.foldl_reserve_le_of_subset head root _ subset) left

theorem forall₂_usableAreas {R : Rect → Rect → Prop}
    (related : ∀ head area area', usableArea root struts head = .ok area →
      usableArea root others head = .ok area' → R area area')
    (left : usableAreas root struts heads = .ok areas)
    (left' : usableAreas root others heads = .ok areas') : List.Forall₂ R areas areas' := by
  rw [usableAreas_eq_ok_iff] at left left'
  induction left generalizing areas' with
  | nil =>
    cases left'
    exact .nil
  | cons first _ ih =>
    cases left' with
    | cons first' rest' => exact .cons (related _ _ _ first first') (ih rest')

theorem foldl_reserve_congr
    (alike : List.Forall₂ (fun strut other => ∀ edges : Edges,
      edges.reserve head root other = edges.reserve head root strut) struts others)
    (edges : Edges) :
    others.foldl (Edges.reserve head root) edges =
      struts.foldl (Edges.reserve head root) edges := by
  induction alike generalizing edges with
  | nil => rfl
  | cons same _ ih => rw [List.foldl_cons, List.foldl_cons, same, ih]

/-- What taking struts off some heads comes to, and whether it does.  There are areas unless a strut
reaches too far, and so there are for heads on the root window and insets of at most `2 ^ 31`.  They
lie inside the heads even where struts from opposite sides have crossed, and further struts, wherever
they are added, make them neither wider nor taller. -/
structure ReducesInside (root : Rect) (struts : List Strut) (heads : List Rect) : Prop where
  answers_iff : (∃ areas, usableAreas root struts heads = .ok areas) ↔
    ∀ head ∈ heads, WithinReach root struts head
  overflows : ∀ head ∈ heads, ¬WithinReach root struts head →
    usableAreas root struts heads = .error .subtraction
  answers : (∀ head ∈ heads, head.right ≤ root.right ∧ head.bottom ≤ root.bottom) →
    (∀ strut ∈ struts, strut.right ≤ 2147483648 ∧ strut.bottom ≤ 2147483648) →
    ∃ areas, usableAreas root struts heads = .ok areas
  inside : ∀ areas, usableAreas root struts heads = .ok areas →
    List.Forall₂ (fun head area => area.IsInside head) heads areas
  narrows : ∀ more smaller, struts ⊆ more → usableAreas root more heads = .ok smaller →
    ∃ areas, usableAreas root struts heads = .ok areas ∧
      List.Forall₂ (fun small area => small.width ≤ area.width ∧ small.height ≤ area.height)
        smaller areas

/-- Unless a strut reaches too far past the corner of an area, struts reduce every head to an area
inside it. -/
theorem usableAreas_reduce_inside (root : Rect) (struts : List Strut) (heads : List Rect)
    (rootInRange : root.InRange) (inRange : ∀ head ∈ heads, head.InRange)
    (sized : ∀ head ∈ heads, head.IsSized) : ReducesInside root struts heads where
  answers_iff := exists_usableAreas_iff_of_inRange rootInRange inRange sized
  overflows head member far := by
    cases left : usableAreas root struts heads with
    | ok areas =>
      have within := (exists_usableAreas_iff_of_inRange rootInRange inRange sized).mp ⟨areas, left⟩
      exact absurd (within head member) far
    | error cause => rw [usableAreas_eq_error_of_inRange rootInRange inRange left]
  answers onRoot thin :=
    (exists_usableAreas_iff_of_inRange rootInRange inRange sized).mpr fun head member =>
      withinReach_of_insets_le rootInRange (onRoot head member) thin
  inside areas left := by
    have pairs := (List.forall₂_and_left _ _).mpr ⟨sized, usableAreas_eq_ok_iff.mp left⟩
    refine pairs.imp ?_
    rintro head area ⟨headSized, own⟩
    exact usableArea_isInside own headSized.width.1 headSized.height.1
  narrows more smaller subset left := by
    obtain ⟨areas, left'⟩ := exists_usableAreas_of_subset sized subset left
    refine ⟨areas, left', forall₂_usableAreas ?_ left left'⟩
    intro head small area own own'
    exact usableArea_narrows subset own own'

/-- Two heads on top of each other, and struts from all sides that cross on them. -/
theorem stacked_heads_reduce_inside :
    let root : Rect := ⟨0, 0, 100, 200⟩
    let heads : List Rect := [⟨0, 0, 100, 100⟩, ⟨0, 100, 100, 100⟩]
    let struts : List Strut :=
      [⟨80, 50, 0, 0, .wholeEdge, .wholeEdge, .wholeEdge, .wholeEdge⟩,
        ⟨0, 0, 500, 0, .wholeEdge, .wholeEdge, .wholeEdge, .wholeEdge⟩,
        ⟨4294967295, 0, 0, 2147483648, ⟨150, 199⟩, .wholeEdge, .wholeEdge, .wholeEdge⟩]
    root.InRange ∧ (∀ head ∈ heads, head.InRange) ∧ (∀ head ∈ heads, head.IsSized) ∧
      ReducesInside root struts heads ∧
      usableAreas root struts heads = .ok [⟨80, 100, 0, 0⟩, ⟨100, 200, 0, 0⟩] := by
  intro root heads struts
  have rootInRange : root.InRange := by decide
  have inRange : ∀ head ∈ heads, head.InRange := by decide
  have sized : ∀ head ∈ heads, head.IsSized := by decide
  exact ⟨rootInRange, inRange, sized,
    usableAreas_reduce_inside root struts heads rootInRange inRange sized, by decide⟩

/-- An inset of all 32 bits from the right reaches too far if there is also one from the left. -/
theorem crossing_insets_leave_no_areas :
    let root : Rect := ⟨0, 0, 100, 100⟩
    let heads : List Rect := [⟨0, 0, 100, 100⟩]
    let struts : List Strut :=
      [⟨50, 4294967295, 0, 0, .wholeEdge, .wholeEdge, .wholeEdge, .wholeEdge⟩]
    root.InRange ∧ (∀ head ∈ heads, head.InRange) ∧ (∀ head ∈ heads, head.IsSized) ∧
      usableAreas root struts heads = .error .subtraction := by
  decide

end UsableAreas

end WindowPlacement
