import Mathlib.Data.Int.Order.Basic
import Mathlib.Order.Basic
import WindowPlacement.Proofs.UsableArea

/-!
# Struts as a set

Edges are ordered like the areas between them, but without looking at whether they have crossed.
In this order, taking a strut off some edges gives the greatest edges that are below them and that
the strut admits.  So what a series of struts leaves depends on which struts there are, not on
their order or number, and that includes where the corner of a swallowed head comes to lie.
-/

namespace WindowPlacement

namespace Edges

theorem ext {edges other : Edges} (left : edges.left = other.left)
    (right : edges.right = other.right) (top : edges.top = other.top)
    (bottom : edges.bottom = other.bottom) : edges = other := by
  rw [Edges.mk.injEq]
  exact ⟨left, right, top, bottom⟩

structure LiesWithin (inner outer : Edges) : Prop where
  left : outer.left ≤ inner.left
  right : inner.right ≤ outer.right
  top : outer.top ≤ inner.top
  bottom : inner.bottom ≤ outer.bottom

instance : PartialOrder Edges where
  le := LiesWithin
  le_refl edges := ⟨le_refl _, le_refl _, le_refl _, le_refl _⟩
  le_trans _ _ _ first second :=
    ⟨second.left.trans first.left, first.right.trans second.right,
      second.top.trans first.top, first.bottom.trans second.bottom⟩
  le_antisymm _ _ first second :=
    ext (second.left.antisymm first.left) (first.right.antisymm second.right)
      (second.top.antisymm first.top) (first.bottom.antisymm second.bottom)

end Edges

/-- A strut admits edges that are behind each of its insets that applies to the head. -/
structure Strut.Admits (strut : Strut) (head root : Rect) (inner : Edges) : Prop where
  left : 0 < strut.left ∧ strut.leftSpan.touches head.y head.bottom = true →
    saturate (root.x + strut.left) ≤ inner.left
  right : 0 < strut.right ∧ strut.rightSpan.touches head.y head.bottom = true →
    inner.right ≤ saturate (root.right - strut.right)
  top : 0 < strut.top ∧ strut.topSpan.touches head.x head.right = true →
    saturate (root.y + strut.top) ≤ inner.top
  bottom : 0 < strut.bottom ∧ strut.bottomSpan.touches head.x head.right = true →
    inner.bottom ≤ saturate (root.bottom - strut.bottom)

namespace Edges

theorem le_iff {inner outer : Edges} : inner ≤ outer ↔ inner.LiesWithin outer :=
  .rfl

theorem le_ite_min_iff {applies : Prop} [Decidable applies] {edge inset x : Int} :
    x ≤ (if applies then min edge inset else edge) ↔ x ≤ edge ∧ (applies → x ≤ inset) := by
  by_cases holds : applies
  · rw [if_pos holds, Int.le_min, imp_iff_right holds]
  · rw [if_neg holds, and_iff_left fun applied => absurd applied holds]

/-- Taking off a strut leaves the greatest edges that the strut admits. -/
theorem le_reserve_iff {head root : Rect} {edges inner : Edges} {strut : Strut} :
    inner ≤ reserve head root edges strut ↔ inner ≤ edges ∧ strut.Admits head root inner := by
  rw [le_iff, le_iff]
  constructor
  · rintro ⟨left, right, top, bottom⟩
    obtain ⟨left, admitsLeft⟩ := ite_max_le_iff.mp left
    obtain ⟨right, admitsRight⟩ := le_ite_min_iff.mp right
    obtain ⟨top, admitsTop⟩ := ite_max_le_iff.mp top
    obtain ⟨bottom, admitsBottom⟩ := le_ite_min_iff.mp bottom
    exact ⟨⟨left, right, top, bottom⟩, admitsLeft, admitsRight, admitsTop, admitsBottom⟩
  · rintro ⟨⟨left, right, top, bottom⟩, admits⟩
    exact ⟨ite_max_le_iff.mpr ⟨left, admits.left⟩, le_ite_min_iff.mpr ⟨right, admits.right⟩,
      ite_max_le_iff.mpr ⟨top, admits.top⟩, le_ite_min_iff.mpr ⟨bottom, admits.bottom⟩⟩

theorem le_foldl_reserve_iff {head root : Rect} {struts : List Strut} {edges inner : Edges} :
    inner ≤ struts.foldl (reserve head root) edges ↔
      inner ≤ edges ∧ ∀ strut ∈ struts, strut.Admits head root inner := by
  induction struts generalizing edges with
  | nil => simp
  | cons strut struts ih =>
    rw [List.foldl_cons, ih, le_reserve_iff, List.forall_mem_cons, and_assoc]

end Edges

section UsableAreas

variable {root : Rect} {struts others : List Strut} {heads : List Rect}

/-- What is left of a head depends on which struts there are, and on nothing else about them. -/
theorem remainder_congr (same : ∀ strut, strut ∈ struts ↔ strut ∈ others) (root head : Rect) :
    remainder root struts head = remainder root others head := by
  have edges_eq : struts.foldl (Edges.reserve head root) (.ofRect head) =
      others.foldl (Edges.reserve head root) (.ofRect head) := by
    -- Edges are known by the edges that are below them.
    refine eq_of_forall_le_iff fun inner => ?_
    simp only [Edges.le_foldl_reserve_iff, same]
  rw [remainder, remainder, edges_eq]

theorem usableArea_congr {head : Rect}
    (fit : FarEdgesFit root others head ↔ FarEdgesFit root struts head)
    (edges : remainder root others head = remainder root struts head) :
    usableArea root others head = usableArea root struts head := by
  simp only [usableArea, fit, edges]

theorem usableAreas_congr
    (same : ∀ head ∈ heads, usableArea root others head = usableArea root struts head) :
    usableAreas root others heads = usableAreas root struts heads := by
  induction heads with
  | nil => rfl
  | cons head rest ih =>
    obtain ⟨first, rest_same⟩ := List.forall_mem_cons.mp same
    simp only [usableAreas, List.mapM_cons, first] at ih ⊢
    rw [ih rest_same]

theorem usableAreas_congr_of_mem_iff (same : ∀ strut, strut ∈ struts ↔ strut ∈ others)
    (root : Rect) (heads : List Rect) :
    usableAreas root struts heads = usableAreas root others heads := by
  apply usableAreas_congr
  intro head _
  exact usableArea_congr (by simp only [FarEdgesFit, same]) (remainder_congr same root head)

/-- The area of a head depends on its rectangle and on the set of struts, and on the other heads
only where one of them overflows. -/
theorem getD_usableAreas_congr {heads' : List Rect} {index : Fin heads.length}
    {index' : Fin heads'.length} (same : ∀ strut, strut ∈ struts ↔ strut ∈ others)
    (own : heads.get index = heads'.get index')
    (overflow : ∀ cause, usableAreas root struts heads = .error cause ↔
      usableAreas root others heads' = .error cause) :
    ((usableAreas root struts heads).map fun areas => areas.getD index (heads.get index)) =
      (usableAreas root others heads').map fun areas => areas.getD index' (heads'.get index') := by
  rw [usableAreas_congr_of_mem_iff same root heads] at overflow ⊢
  cases left : usableAreas root others heads with
  | error cause => rw [(overflow cause).mp left]; rfl
  | ok areas =>
    cases left' : usableAreas root others heads' with
    | error cause =>
      rw [(overflow cause).mpr left'] at left
      cases left
    | ok areas' =>
      have area := usableArea_of_getElem? left (List.getElem?_eq_getElem index.isLt)
        (getElem?_eq_some_getD_usableAreas left index)
      have area' := usableArea_of_getElem? left' (List.getElem?_eq_getElem index'.isLt)
        (getElem?_eq_some_getD_usableAreas left' index')
      have heads_eq : heads[index.val] = heads'[index'.val] := own
      rw [heads_eq, area'] at area
      exact area.symm

end UsableAreas

end WindowPlacement
