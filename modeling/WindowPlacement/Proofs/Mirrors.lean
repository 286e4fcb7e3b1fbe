import Mathlib.Data.List.Nodup
import Mathlib.Data.Set.Finite.List
import Mathlib.Order.Preorder.Finite
import WindowPlacement.Display.Basic
import WindowPlacement.Proofs.Ownership

/-!
# Heads without mirrors

Rectangles are ordered by containment, also those that are empty or reversed: a rectangle is
known by its edges.  A head is no mirror iff it is maximal in this order and has no equal in
front of it.  So what is left of some heads are the maximal ones, each of them once, and there
is one that contains any head that has been dropped.
-/

namespace WindowPlacement

namespace Rect

theorem containsRect_refl (r : Rect) : r.containsRect r = true := by
  simp [containsRect_iff]

theorem containsRect_trans {r middle other : Rect} (outer : r.containsRect middle = true)
    (inner : middle.containsRect other = true) : r.containsRect other = true := by
  rw [containsRect_iff] at *
  omega

theorem containsRect_antisymm {r other : Rect} (contains : r.containsRect other = true)
    (contained : other.containsRect r = true) : r = other := by
  rw [containsRect_iff] at contains contained
  obtain ⟨x, y, width, height⟩ := r
  obtain ⟨x', y', width', height'⟩ := other
  simp only [right, bottom] at contains contained
  rw [Rect.mk.injEq]
  omega

/-- A rectangle is below those that contain it. -/
instance : PartialOrder Rect where
  le inner outer := outer.containsRect inner = true
  le_refl := containsRect_refl
  le_trans _ _ _ first second := containsRect_trans second first
  le_antisymm _ _ contained contains := containsRect_antisymm contains contained

theorem le_iff {inner outer : Rect} : inner ≤ outer ↔ outer.containsRect inner = true :=
  .rfl

theorem containsPoint_of_le {inner outer : Rect} (contained : inner ≤ outer) {x y : Int}
    (contains : inner.containsPoint x y = true) : outer.containsPoint x y = true := by
  rw [le_iff, containsRect_iff] at contained
  rw [containsPoint_iff] at *
  omega

end Rect

section Positions

variable {heads : List Rect}

theorem isMirror_iff {index : Nat} {head : Rect} :
    isMirror heads index head = true ↔
      ∃ position other, heads[position]? = some other ∧ position ≠ index ∧ head ≤ other ∧
        (other ≠ head ∨ position < index) := by
  simp only [isMirror, List.any_eq_true, Prod.exists, List.mk_mem_zipIdx_iff_getElem?,
    Bool.and_eq_true, Bool.or_eq_true, bne_iff_ne, decide_eq_true_eq, and_assoc, Rect.le_iff]
  exact exists_comm

/-- A head is no mirror iff it is maximal, and the first one among its equals. -/
theorem isMirror_eq_false_iff {index : Nat} {head : Rect} (known : heads[index]? = some head) :
    isMirror heads index head = false ↔
      Maximal (· ∈ heads) head ∧ ∀ earlier < index, heads[earlier]? ≠ some head := by
  rw [← Bool.not_eq_true, isMirror_iff]
  constructor
  · intro unmirrored
    refine ⟨⟨List.mem_of_getElem? known, ?_⟩, ?_⟩
    · intro other member contained
      obtain ⟨position, found⟩ := List.getElem?_of_mem member
      by_contra differs
      have distinct : other ≠ head := fun same => differs (same ▸ le_refl head)
      have elsewhere : position ≠ index := by
        rintro rfl
        exact distinct (Option.some.inj (found.symm.trans known))
      exact unmirrored ⟨position, other, found, elsewhere, contained, .inl distinct⟩
    · intro earlier before found
      exact unmirrored ⟨earlier, head, found, by omega, le_refl head, .inr before⟩
  · rintro ⟨maximal, first⟩ ⟨position, other, found, -, contained, reason⟩
    have same : head = other := maximal.eq_of_le (List.mem_of_getElem? found) contained
    rcases reason with distinct | before
    · exact distinct same.symm
    · exact first position before (same ▸ found)

def headPositions (heads : List Rect) : List Nat :=
  (heads.zipIdx.filter fun (head, index) => !isMirror heads index head).map Prod.snd

theorem mem_headPositions_iff {index : Nat} :
    index ∈ headPositions heads ↔
      ∃ head, heads[index]? = some head ∧ Maximal (· ∈ heads) head ∧
        ∀ earlier < index, heads[earlier]? ≠ some head := by
  simp only [headPositions, List.mem_map, List.mem_filter, Prod.exists, exists_eq_right,
    List.mk_mem_zipIdx_iff_getElem?, Bool.not_eq_true']
  refine exists_congr fun head => and_congr_right fun known => ?_
  exact isMirror_eq_false_iff known

theorem pairwise_headPositions (heads : List Rect) : (headPositions heads).Pairwise (· < ·) := by
  have ascending : (heads.zipIdx.map Prod.snd).Pairwise (· < ·) := by
    rw [List.zipIdx_map_snd]
    exact List.pairwise_lt_range'
  exact ascending.sublist (List.filter_sublist.map Prod.snd)

theorem map_some_physicalHeads (heads : List Rect) :
    (physicalHeads heads).map some = (headPositions heads).map (heads[·]?) := by
  rw [physicalHeads, headPositions, List.map_map, List.map_map, List.map_inj_left]
  rintro ⟨head, index⟩ kept
  exact (List.mk_mem_zipIdx_iff_getElem?.mp (List.mem_filter.mp kept).1).symm

end Positions

section Kept

variable {heads : List Rect}

theorem mem_physicalHeads_iff {head : Rect} :
    head ∈ physicalHeads heads ↔ Maximal (· ∈ heads) head := by
  have listed : head ∈ physicalHeads heads ↔
      ∃ index ∈ headPositions heads, heads[index]? = some head := by
    rw [← List.mem_map_of_injective (Option.some_injective Rect), map_some_physicalHeads,
      List.mem_map]
  rw [listed]
  constructor
  · rintro ⟨index, kept, known⟩
    obtain ⟨head', known', maximal, -⟩ := mem_headPositions_iff.mp kept
    obtain rfl : head' = head := Option.some.inj (known'.symm.trans known)
    exact maximal
  · intro maximal
    -- Of equal maximal heads, the first one is the one that is no mirror.
    have occurs : ∃ index, heads[index]? = some head := List.getElem?_of_mem maximal.prop
    refine ⟨Nat.find occurs, mem_headPositions_iff.mpr ?_, Nat.find_spec occurs⟩
    exact ⟨head, Nat.find_spec occurs, maximal, fun earlier before => Nat.find_min occurs before⟩

theorem physicalHeads_sublist (heads : List Rect) : (physicalHeads heads).Sublist heads := by
  have listed : heads.zipIdx.map Prod.fst = heads := List.zipIdx_map_fst 0 heads
  rw [physicalHeads]
  conv => rhs; rw [← listed]
  exact List.filter_sublist.map Prod.fst

theorem nodup_physicalHeads (heads : List Rect) : (physicalHeads heads).Nodup := by
  rw [← List.nodup_map_iff (Option.some_injective Rect), map_some_physicalHeads,
    List.Nodup, List.pairwise_map]
  refine (pairwise_headPositions heads).imp_of_mem ?_
  intro index later _ keptLater before same
  obtain ⟨head, known, -, first⟩ := mem_headPositions_iff.mp keptLater
  exact first index before (same.trans known)

theorem physicalHeads_eq_self (maximal : ∀ head ∈ heads, Maximal (· ∈ heads) head)
    (nodup : heads.Nodup) : physicalHeads heads = heads := by
  have unmirrored : ∀ entry ∈ heads.zipIdx, (!isMirror heads entry.2 entry.1) = true := by
    rintro ⟨head, index⟩ entry
    have known : heads[index]? = some head := List.mk_mem_zipIdx_iff_getElem?.mp entry
    rw [Bool.not_eq_true', isMirror_eq_false_iff known]
    refine ⟨maximal head (List.mem_of_getElem? known), ?_⟩
    intro earlier before found
    have inside : earlier < heads.length := (List.getElem?_eq_some_iff.mp found).1
    have same : earlier = index := (List.getElem?_inj inside nodup).mp (found.trans known.symm)
    omega
  rw [physicalHeads, List.filter_eq_self.mpr unmirrored, List.zipIdx_map_fst]

theorem exists_physicalHead_ge {head : Rect} (member : head ∈ heads) :
    ∃ kept ∈ physicalHeads heads, head ≤ kept := by
  obtain ⟨kept, contained, maximal⟩ := heads.finite_toSet.exists_le_maximal member
  exact ⟨kept, mem_physicalHeads_iff.mpr maximal, contained⟩

end Kept

/-- What dropping the mirrors among some heads comes to.  Every head lies within one that is left,
and none of these within another one; of equal heads the first is left.  A window whose center is
on a head stays on a head that has its center. -/
structure DropsMirrors (heads kept : List Rect) : Prop where
  sublist : kept.Sublist heads
  apart : kept.Pairwise fun head other =>
    head.containsRect other = false ∧ other.containsRect head = false
  covers : ∀ head ∈ heads, ∃ other ∈ kept, other.containsRect head = true
  nonempty : heads ≠ [] → kept ≠ []
  positions : ∃ positions : List Nat, positions.Pairwise (· < ·) ∧
    kept.map some = positions.map (heads[·]?) ∧
    ∀ index, index ∈ positions ↔ ∃ head, heads[index]? = some head ∧
      (∀ other ∈ heads, other.containsRect head = true → other = head) ∧
      ∀ earlier < index, heads[earlier]? ≠ some head
  again : physicalHeads kept = kept
  owner : ∀ window : Rect,
    (∃ head ∈ heads, head.containsPoint window.center.1 window.center.2 = true) →
      ∃ index, owningHead window kept = .ok index ∧
        (kept.get index).containsPoint window.center.1 window.center.2 = true

section Owner

variable {window : Rect} {heads : List Rect}

theorem exists_owningHead_containing {head : Rect} (member : head ∈ heads)
    (contains : head.containsPoint window.center.1 window.center.2 = true) :
    ∃ index, owningHead window heads = .ok index ∧
      (heads.get index).containsPoint window.center.1 window.center.2 = true := by
  match heads, member with
  | [only], member =>
    obtain rfl := List.mem_singleton.mp member
    exact ⟨⟨0, Nat.zero_lt_one⟩, rfl, contains⟩
  | first :: second :: rest, member =>
    have several : 2 ≤ (first :: second :: rest).length := by simp
    obtain ⟨index, owned⟩ := exists_owningHead several member contains
    exact ⟨index, owned, ((owningHead_eq_ok_iff several).mp owned).1⟩

end Owner

theorem dropsMirrors_physicalHeads (heads : List Rect) :
    DropsMirrors heads (physicalHeads heads) where
  sublist := physicalHeads_sublist heads
  apart := by
    refine (nodup_physicalHeads heads).imp_of_mem ?_
    intro head other kept keptOther distinct
    have maximal := mem_physicalHeads_iff.mp kept
    have maximalOther := mem_physicalHeads_iff.mp keptOther
    constructor
    · rw [← Bool.not_eq_true, ← Rect.le_iff]
      exact fun contained => distinct (maximalOther.eq_of_le maximal.prop contained).symm
    · rw [← Bool.not_eq_true, ← Rect.le_iff]
      exact fun contained => distinct (maximal.eq_of_le maximalOther.prop contained)
  covers _ member := exists_physicalHead_ge member
  nonempty some_head := by
    obtain ⟨head, member⟩ := List.exists_mem_of_ne_nil heads some_head
    obtain ⟨kept, member_kept, -⟩ := exists_physicalHead_ge member
    exact List.ne_nil_of_mem member_kept
  positions := by
    refine ⟨headPositions heads, pairwise_headPositions heads, map_some_physicalHeads heads, ?_⟩
    intro index
    rw [mem_headPositions_iff]
    refine exists_congr fun head => and_congr_right fun known => and_congr_left fun _ => ?_
    constructor
    · exact fun maximal other member contained => (maximal.eq_of_le member contained).symm
    · intro largest
      refine ⟨List.mem_of_getElem? known, fun other member contained => ?_⟩
      exact (largest other member contained).le
  again := by
    refine physicalHeads_eq_self ?_ (nodup_physicalHeads heads)
    intro head kept
    have listed := (physicalHeads_sublist heads).subset
    exact (mem_physicalHeads_iff.mp kept).mono (fun other => listed (a := other)) kept
  owner window := by
    rintro ⟨head, member, contains⟩
    obtain ⟨kept, member_kept, contained⟩ := exists_physicalHead_ge member
    exact exists_owningHead_containing member_kept (Rect.containsPoint_of_le contained contains)

/-- Dropping mirrors loses no part of any head and leaves no head that is redundant, and a
display always has a head. -/
theorem heads_without_mirrors :
    (∀ heads, DropsMirrors heads (physicalHeads heads)) ∧
      ∀ display : Display, ∃ heads, display.desktop.heads = .ok heads ∧ heads ≠ [] := by
  refine ⟨dropsMirrors_physicalHeads, ?_⟩
  intro display
  refine ⟨display.heads, rfl, ?_⟩
  rw [Display.heads]
  split
  · exact (dropsMirrors_physicalHeads _).nonempty (List.cons_ne_nil _ _)
  · exact List.cons_ne_nil _ _

end WindowPlacement
