import Mathlib.Data.List.Pairwise
import WindowPlacement.Geometry.Head
import WindowPlacement.Proofs.UsableArea

/-!
# The head that a window is on

Of several heads a window is on the first one that has its center, and a head has the points on
its edges too.  Heads without a common pixel may still share an edge, but the center of a head
that is at least two pixels wide and tall is on no edge, so a window that is centered on such a
head is on this head and on no other.
-/

namespace WindowPlacement

namespace Rect

/-- A point lies in the rectangle and on none of its edges. -/
def Inside (r : Rect) (x y : Int) : Prop :=
  (r.x < x ∧ x < r.right) ∧ r.y < y ∧ y < r.bottom

/-- Two rectangles have no pixel in common. -/
def Disjoint (r other : Rect) : Prop :=
  ∀ x y, r.Covers x y → ¬other.Covers x y

theorem Disjoint.symm {r other : Rect} (disjoint : r.Disjoint other) : other.Disjoint r :=
  fun x y covered covered' => disjoint x y covered' covered

/-- Without common pixels, one rectangle ends before the other one starts. -/
theorem disjoint_iff {r other : Rect} (nonempty : 0 < r.width ∧ 0 < r.height)
    (nonempty' : 0 < other.width ∧ 0 < other.height) :
    r.Disjoint other ↔
      r.right ≤ other.x ∨ other.right ≤ r.x ∨ r.bottom ≤ other.y ∨ other.bottom ≤ r.y := by
  simp only [Disjoint, Covers, right, bottom]
  constructor
  · intro disjoint
    have apart := disjoint (max r.x other.x) (max r.y other.y)
    omega
  · intro apart x y covered covered'
    omega

theorem inside_center {r : Rect} (wide : 2 ≤ r.width) (tall : 2 ≤ r.height) :
    r.Inside r.center.1 r.center.2 := by
  have across : r.width.tdiv 2 = r.width / 2 := Int.tdiv_eq_ediv_of_nonneg (by omega)
  have down : r.height.tdiv 2 = r.height / 2 := Int.tdiv_eq_ediv_of_nonneg (by omega)
  simp only [Inside, center, right, bottom, across, down]
  omega

theorem Inside.containsPoint {r : Rect} {x y : Int} (inside : r.Inside x y) :
    r.containsPoint x y = true := by
  rw [containsPoint_iff]
  simp only [Inside] at inside
  omega

/-- A point within a rectangle is not even on an edge of a rectangle that is disjoint from it. -/
theorem Disjoint.not_containsPoint {r other : Rect} {x y : Int} (disjoint : r.Disjoint other)
    (nonempty : 0 < other.width ∧ 0 < other.height) (inside : r.Inside x y) :
    other.containsPoint x y = false := by
  have size : 0 < r.width ∧ 0 < r.height := by
    simp only [Inside, right, bottom] at inside
    omega
  rw [disjoint_iff size nonempty] at disjoint
  simp only [Inside] at inside
  rw [Bool.eq_false_iff, ne_eq, containsPoint_iff]
  omega

end Rect

section Owner

variable {window : Rect} {heads : List Rect}

/-- Of several heads, a window is on the first one that has its center. -/
theorem owningHead_eq_ok_iff (several : 2 ≤ heads.length) {index : Fin heads.length} :
    owningHead window heads = .ok index ↔
      (heads.get index).containsPoint window.center.1 window.center.2 = true ∧
        ∀ earlier : Fin heads.length, earlier < index →
          (heads.get earlier).containsPoint window.center.1 window.center.2 = false := by
  match heads, several with
  | first :: second :: rest, _ =>
    have found : (first :: second :: rest).findFinIdx? (fun head =>
        head.containsPoint window.center.1 window.center.2) = some index ↔ _ :=
      List.findFinIdx?_eq_some_iff
    simp only [Bool.not_eq_true] at found
    refine Iff.trans ?_ found
    rw [owningHead]
    cases (first :: second :: rest).findFinIdx? fun head =>
        head.containsPoint window.center.1 window.center.2 with
    | none => simp
    | some index' => simp

theorem exists_owningHead (several : 2 ≤ heads.length) {head : Rect} (member : head ∈ heads)
    (contains : head.containsPoint window.center.1 window.center.2 = true) :
    ∃ index, owningHead window heads = .ok index := by
  match heads, several with
  | first :: second :: rest, _ =>
    rw [owningHead]
    cases found : (first :: second :: rest).findFinIdx? fun head =>
        head.containsPoint window.center.1 window.center.2 with
    | none =>
      rw [List.findFinIdx?_eq_none_iff] at found
      exact absurd contains (found head member)
    | some index => exact ⟨index, rfl⟩

/-- There are several heads, each at least two pixels wide and tall, and no two of them have a
pixel in common. -/
structure SeparateHeads (heads : List Rect) : Prop where
  several : 2 ≤ heads.length
  large : ∀ head ∈ heads, 2 ≤ head.width ∧ 2 ≤ head.height
  disjoint : heads.Pairwise Rect.Disjoint

theorem SeparateHeads.owningHead_of_center (separate : SeparateHeads heads)
    (index : Fin heads.length) (centered : window.center = (heads.get index).center) :
    owningHead window heads = .ok index := by
  have large := separate.large (heads.get index) (heads.get_mem index)
  have inside := Rect.inside_center large.1 large.2
  rw [owningHead_eq_ok_iff separate.several, centered]
  refine ⟨inside.containsPoint, ?_⟩
  intro earlier before
  have disjoint : (heads.get earlier).Disjoint (heads.get index) :=
    List.pairwise_iff_getElem.mp separate.disjoint earlier index earlier.isLt index.isLt before
  have large' := separate.large (heads.get earlier) (heads.get_mem earlier)
  exact disjoint.symm.not_containsPoint (by omega) inside

theorem separateHeads_pair {first second : Rect} (large : 2 ≤ first.width ∧ 2 ≤ first.height)
    (large' : 2 ≤ second.width ∧ 2 ≤ second.height) (beside : first.right ≤ second.x) :
    SeparateHeads [first, second] where
  several := Nat.le_refl 2
  large := List.forall_mem_cons.mpr ⟨large, List.forall_mem_singleton.mpr large'⟩
  disjoint := by
    rw [List.pairwise_pair, Rect.disjoint_iff (by omega) (by omega)]
    exact .inl beside

end Owner

end WindowPlacement
