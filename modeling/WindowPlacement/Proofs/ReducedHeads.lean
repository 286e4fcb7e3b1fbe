import WindowPlacement.Proofs.InnerAreas

/-!
# What struts leave of the heads

Taking struts off some heads leaves as many heads, in the same order.  A pixel of a head is
left iff it lies behind the inset of every strut whose span meets the head, and insets are
exact here although the edges of an area are clamped: a clamped inset lies beyond all pixels
of a head, or in front of all of them, just as the exact one does.  All this is so where taking
the struts off comes to areas at all, which it does unless a strut reaches too far or counts from
an edge that is no 32-bit number.
-/

namespace WindowPlacement

/-- A span is the whole edge, or it has a pixel in common with a stretch from `low` up to but
without `high`. -/
def Span.Meets (span : Span) (low high : Int) : Prop :=
  span = .wholeEdge ∨
    ∃ position, (low ≤ position ∧ position < high) ∧
      span.first ≤ position ∧ position ≤ span.last

instance (span : Span) (low high : Int) : Decidable (span.Meets low high) :=
  decidable_of_iff (span = .wholeEdge ∨ max low span.first < high ∧ max low span.first ≤ span.last)
    (or_congr_right ⟨fun ⟨inside, onSpan⟩ => ⟨max low span.first, by omega⟩,
      fun ⟨position, within, onSpan⟩ => by omega⟩)

/-- The test by the ends of a span finds the common pixels, unless the span is reversed or the
stretch is empty. -/
theorem Span.touches_iff_meets {span : Span} {low high : Int} (forward : span.first ≤ span.last)
    (nonempty : low < high) : span.touches low high = true ↔ span.Meets low high := by
  simp only [touches, Meets, Bool.or_eq_true, beq_iff_eq, Bool.and_eq_true, decide_eq_true_eq]
  apply or_congr_right
  constructor
  · rintro ⟨starts, ends⟩
    refine ⟨max low span.first, ?_, ?_⟩ <;> omega
  · rintro ⟨position, within, onSpan⟩
    omega

namespace Strut

structure IsForward (strut : Strut) : Prop where
  left : strut.leftSpan.first ≤ strut.leftSpan.last
  right : strut.rightSpan.first ≤ strut.rightSpan.last
  top : strut.topSpan.first ≤ strut.topSpan.last
  bottom : strut.bottomSpan.first ≤ strut.bottomSpan.last

instance (strut : Strut) : Decidable strut.IsForward :=
  decidable_of_iff
    ((strut.leftSpan.first ≤ strut.leftSpan.last ∧
        strut.rightSpan.first ≤ strut.rightSpan.last) ∧
      strut.topSpan.first ≤ strut.topSpan.last ∧
        strut.bottomSpan.first ≤ strut.bottomSpan.last)
    ⟨fun ⟨⟨left, right⟩, top, bottom⟩ => ⟨left, right, top, bottom⟩,
      fun ⟨left, right, top, bottom⟩ => ⟨⟨left, right⟩, top, bottom⟩⟩

/-- A pixel lies behind every inset of a strut whose span meets the head. -/
structure Clears (strut : Strut) (head root : Rect) (x y : Int) : Prop where
  left : 0 < strut.left → strut.leftSpan.Meets head.y head.bottom → root.x + strut.left ≤ x
  right : 0 < strut.right → strut.rightSpan.Meets head.y head.bottom →
    x < root.right - strut.right
  top : 0 < strut.top → strut.topSpan.Meets head.x head.right → root.y + strut.top ≤ y
  bottom : 0 < strut.bottom → strut.bottomSpan.Meets head.x head.right →
    y < root.bottom - strut.bottom

/-- On the pixels of a head it does not matter that insets are clamped, nor that spans are
compared by their ends only. -/
theorem spares_iff_clears {strut : Strut} {head root : Rect} {x y : Int}
    (forward : strut.IsForward) (inRange : head.InRange) (covered : head.Covers x y) :
    strut.Spares head root x y ↔ strut.Clears head root x y := by
  obtain ⟨⟨left, right⟩, top, bottom⟩ := covered
  have across : leastCoordinate ≤ x ∧ x < greatestCoordinate :=
    ⟨Int.le_trans inRange.left.1 left, Int.lt_of_lt_of_le right inRange.right.2⟩
  have down : leastCoordinate ≤ y ∧ y < greatestCoordinate :=
    ⟨Int.le_trans inRange.top.1 top, Int.lt_of_lt_of_le bottom inRange.bottom.2⟩
  have wide : head.x < head.right := Int.lt_of_le_of_lt left right
  have tall : head.y < head.bottom := Int.lt_of_le_of_lt top bottom
  have leftMeets := Span.touches_iff_meets forward.left tall
  have rightMeets := Span.touches_iff_meets forward.right tall
  have topMeets := Span.touches_iff_meets forward.top wide
  have bottomMeets := Span.touches_iff_meets forward.bottom wide
  constructor
  · intro spares
    constructor
    · intro inset meets
      exact (saturate_le_iff across.1 across.2).mp (spares.left ⟨inset, leftMeets.mpr meets⟩)
    · intro inset meets
      exact (lt_saturate_iff across.1 across.2).mp (spares.right ⟨inset, rightMeets.mpr meets⟩)
    · intro inset meets
      exact (saturate_le_iff down.1 down.2).mp (spares.top ⟨inset, topMeets.mpr meets⟩)
    · intro inset meets
      exact (lt_saturate_iff down.1 down.2).mp (spares.bottom ⟨inset, bottomMeets.mpr meets⟩)
  · intro clears
    constructor
    · rintro ⟨inset, touches⟩
      exact (saturate_le_iff across.1 across.2).mpr (clears.left inset (leftMeets.mp touches))
    · rintro ⟨inset, touches⟩
      exact (lt_saturate_iff across.1 across.2).mpr (clears.right inset (rightMeets.mp touches))
    · rintro ⟨inset, touches⟩
      exact (saturate_le_iff down.1 down.2).mpr (clears.top inset (topMeets.mp touches))
    · rintro ⟨inset, touches⟩
      exact (lt_saturate_iff down.1 down.2).mpr (clears.bottom inset (bottomMeets.mp touches))

end Strut

section Areas

variable {root head area smaller : Rect} {struts more : List Strut}

theorem covers_usableArea_iff_clears (left : usableArea root struts head = .ok area)
    (inRange : head.InRange) (forward : ∀ strut ∈ struts, strut.IsForward) (x y : Int) :
    area.Covers x y ↔ head.Covers x y ∧ ∀ strut ∈ struts, strut.Clears head root x y := by
  rw [covers_usableArea_iff left]
  apply and_congr_right
  intro covered
  apply forall₂_congr
  intro strut member
  exact Strut.spares_iff_clears (forward strut member) inRange covered

theorem covers_usableArea_of_subset (subset : struts ⊆ more)
    (left : usableArea root more head = .ok smaller) (left' : usableArea root struts head = .ok area)
    {x y : Int} (covered : smaller.Covers x y) : area.Covers x y := by
  rw [covers_usableArea_iff left] at covered
  rw [covers_usableArea_iff left']
  exact ⟨covered.1, fun strut member => covered.2 strut (subset member)⟩

/-- What taking struts off some heads comes to, and whether it does.  If no strut reaches too far
there is one area for each head, in their order, with the pixels that are left.  A head has the same
area among any other heads, and further struts, wherever they are added, never leave more. -/
structure ReducesExactly (root : Rect) (struts : List Strut) (heads : List Rect) : Prop where
  answers_iff : (∃ areas, usableAreas root struts heads = .ok areas) ↔
    ∀ head ∈ heads, FarEdgesFit root struts head ∧ WithinReach root struts head
  pixels : ∀ areas, usableAreas root struts heads = .ok areas → List.Forall₂
    (fun head area => ∀ x y, area.Covers x y ↔
      head.Covers x y ∧ ∀ strut ∈ struts, strut.Clears head root x y) heads areas
  independent : ∀ (others areas areas' : List Rect) (i j : Nat),
    usableAreas root struts heads = .ok areas → usableAreas root struts others = .ok areas' →
      heads[i]? = others[j]? → areas[i]? = areas'[j]?
  shrinks : ∀ more smaller, struts ⊆ more → usableAreas root more heads = .ok smaller →
    ∃ areas, usableAreas root struts heads = .ok areas ∧ List.Forall₂
      (fun small area => ∀ x y, small.Covers x y → area.Covers x y) smaller areas

/-- Unless a strut reaches too far, struts reduce every head to exactly the pixels that they
leave. -/
theorem usableAreas_reduce_exactly (root : Rect) (struts : List Strut) (heads : List Rect)
    (sized : ∀ head ∈ heads, head.IsSized) (forward : ∀ strut ∈ struts, strut.IsForward) :
    ReducesExactly root struts heads where
  answers_iff := exists_usableAreas_iff_withinReach sized
  pixels areas left := by
    have pairs := (List.forall₂_and_left _ _).mpr ⟨sized, usableAreas_eq_ok_iff.mp left⟩
    refine pairs.imp ?_
    rintro head area ⟨headSized, own⟩
    have inRange : head.InRange := (usableArea_eq_ok_iff.mp own).1.inRange headSized.corner
    exact covers_usableArea_iff_clears own inRange forward
  independent others areas areas' i j left left' same := by
    rw [getElem?_usableAreas left, getElem?_usableAreas left', same]
  shrinks more smaller subset left := by
    obtain ⟨areas, left'⟩ := exists_usableAreas_of_subset sized subset left
    refine ⟨areas, left', forall₂_usableAreas ?_ left left'⟩
    intro head small area own own' x y covered
    exact covers_usableArea_of_subset subset own own' covered

/-- Two heads on top of each other, the upper one with a negative corner.  One strut is beside
the lower head only, another one is so thick that its inset is clamped. -/
theorem stacked_heads_reduce_exactly :
    let root : Rect := ⟨0, 0, 1920, 2160⟩
    let heads : List Rect := [⟨-10, 0, 1920, 1080⟩, ⟨0, 1080, 1920, 1080⟩]
    let struts : List Strut :=
      [⟨50, 0, 0, 0, ⟨1080, 2159⟩, .wholeEdge, .wholeEdge, .wholeEdge⟩,
        ⟨0, 0, 4294967295, 0, .wholeEdge, .wholeEdge, ⟨1915, 1919⟩, .wholeEdge⟩]
    (∀ head ∈ heads, head.IsSized) ∧ (∀ strut ∈ struts, strut.IsForward) ∧
      ReducesExactly root struts heads ∧
      usableAreas root struts heads = .ok [⟨-10, 0, 1920, 1080⟩, ⟨50, 2160, 1870, 0⟩] :=
  ⟨by decide, by decide, usableAreas_reduce_exactly _ _ _ (by decide) (by decide), by decide⟩

/-- The insets are beside the upper head, which keeps all of its pixels when it is alone.  But on
the lower one the inset from the right reaches too far, and then there is no area of either. -/
theorem insets_beside_head_leave_no_areas :
    let root : Rect := ⟨0, 0, 100, 100⟩
    let upper : Rect := ⟨0, 0, 100, 50⟩
    let lower : Rect := ⟨0, 50, 100, 50⟩
    let strut : Strut := ⟨50, 4294967295, 0, 0, ⟨50, 99⟩, ⟨50, 99⟩, .wholeEdge, .wholeEdge⟩
    upper.IsSized ∧ lower.IsSized ∧ strut.IsForward ∧
      usableAreas root [strut] [upper] = .ok [upper] ∧
      usableAreas root [strut] [upper, lower] = .error .subtraction := by
  decide

end Areas

end WindowPlacement
