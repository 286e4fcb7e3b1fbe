import Mathlib
import WindowPlacement.Proofs.Ownership

/-!
# The order of the heads

Heads that lie side by side share the points of an edge, and a window that is centered there is on
the head that is listed first.  Off the edges the order of the heads does not matter: the head that
the center lies within is the only one that has it.
-/

namespace WindowPlacement

/-- The points of the plane within a rectangle, without those on its edges. -/
def Rect.interior (r : Rect) : Set (ℚ × ℚ) :=
  Set.Ioo (r.x : ℚ) r.right ×ˢ Set.Ioo (r.y : ℚ) r.bottom

theorem disjoint_interior_iff {r other : Rect} (nonempty : 0 < r.width ∧ 0 < r.height)
    (nonempty' : 0 < other.width ∧ 0 < other.height) :
    Disjoint r.interior other.interior ↔ r.Disjoint other := by
  rw [Rect.disjoint_iff nonempty nonempty', Rect.interior, Rect.interior, Set.disjoint_prod,
    Set.Ioo_disjoint_Ioo, Set.Ioo_disjoint_Ioo]
  simp only [min_le_iff, le_max_iff, Int.cast_le, Rect.right, Rect.bottom]
  omega

instance : Std.Symm Rect.Disjoint :=
  ⟨fun _ _ disjoint => disjoint.symm⟩

/-- There are several heads, none of them empty, and their interiors share no point. -/
structure SideBySide (heads : List Rect) : Prop where
  several : 2 ≤ heads.length
  nonempty : ∀ head ∈ heads, 0 < head.width ∧ 0 < head.height
  apart : heads.Pairwise fun head other => Disjoint head.interior other.interior

namespace SideBySide

variable {heads order : List Rect}

theorem of_perm (beside : SideBySide heads) (permuted : order.Perm heads) : SideBySide order where
  several := permuted.length_eq ▸ beside.several
  nonempty head member := beside.nonempty head (permuted.mem_iff.mp member)
  apart := (permuted.pairwise_iff fun apart => apart.symm).mpr beside.apart

theorem disjoint (beside : SideBySide heads) : heads.Pairwise Rect.Disjoint := by
  refine beside.apart.imp_of_mem ?_
  intro head other member member' apart
  exact (disjoint_interior_iff (beside.nonempty head member) (beside.nonempty other member')).mp
    apart

/-- Within a head, no other head has a point, not even on an edge. -/
theorem not_containsPoint (beside : SideBySide heads) {head other : Rect} (member : head ∈ heads)
    (member' : other ∈ heads) (differs : other ≠ head) {x y : Int} (inside : head.Inside x y) :
    other.containsPoint x y = false := by
  have disjoint : head.Disjoint other := beside.disjoint.forall member member' differs.symm
  exact disjoint.not_containsPoint (beside.nonempty other member') inside

end SideBySide

section Owner

variable {window : Rect} {heads : List Rect}

/-- A window is on none of several heads iff none has its center, and its own rectangle is all that
is told then. -/
theorem owningHead_eq_error_iff (several : 2 ≤ heads.length) {failure : HeadError} :
    owningHead window heads = .error failure ↔ failure = .noOwner window ∧
      ∀ head ∈ heads, head.containsPoint window.center.1 window.center.2 = false := by
  match heads, several with
  | first :: second :: rest, _ =>
    have missed : (first :: second :: rest).findFinIdx? (fun head =>
        head.containsPoint window.center.1 window.center.2) = none ↔ _ :=
      List.findFinIdx?_eq_none_iff
    simp only [Bool.not_eq_true] at missed
    rw [← missed, owningHead]
    cases (first :: second :: rest).findFinIdx? fun head =>
        head.containsPoint window.center.1 window.center.2 with
    | none => simp [eq_comm]
    | some index => simp

theorem SideBySide.owningHead_eq_ok_iff_get (beside : SideBySide heads) {head : Rect}
    (member : head ∈ heads) (inside : head.Inside window.center.1 window.center.2)
    {index : Fin heads.length} : owningHead window heads = .ok index ↔ heads.get index = head := by
  rw [owningHead_eq_ok_iff beside.several]
  constructor
  · rintro ⟨contains, -⟩
    by_contra differs
    rw [beside.not_containsPoint member (heads.get_mem index) differs inside] at contains
    cases contains
  · rintro rfl
    refine ⟨inside.containsPoint, fun earlier before => ?_⟩
    have apart := beside.disjoint.rel_get_of_lt before
    exact apart.symm.not_containsPoint (beside.nonempty _ (heads.get_mem earlier)) inside

end Owner

/-- On the edge between two heads, the order decides. -/
example : owningHead ⟨8, 0, 4, 4⟩ [⟨0, 0, 10, 10⟩, ⟨10, 0, 15, 8⟩] = .ok 0 ∧
    owningHead ⟨8, 0, 4, 4⟩ [⟨10, 0, 15, 8⟩, ⟨0, 0, 10, 10⟩] = .ok 0 :=
  ⟨rfl, rfl⟩

end WindowPlacement
