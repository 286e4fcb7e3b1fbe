import WindowPlacement.Proofs.InnerAreas
import WindowPlacement.Proofs.ReducedHeads

/-!
# Insets beside a head

An inset along a span that has no pixel in common with a head takes nothing off the head, so the
strut might as well not have it.  The exception are spans that are reversed: they have no pixels at
all, but comparing their ends with those of a head finds them on every head that both ends are on.
-/

namespace WindowPlacement

namespace Span

/-- A span ends before it starts, and both of its ends are in a stretch. -/
def IsReversedWithin (span : Span) (low high : Int) : Prop :=
  (low ≤ span.last ∧ span.last < span.first) ∧ span.first < high

instance (span : Span) (low high : Int) : Decidable (span.IsReversedWithin low high) :=
  inferInstanceAs (Decidable (_ ∧ _))

/-- A span takes part in what happens to a head along a stretch. -/
def BearsOn (span : Span) (low high : Int) : Prop :=
  span.Meets low high ∨ span.IsReversedWithin low high

instance (span : Span) (low high : Int) : Decidable (span.BearsOn low high) :=
  inferInstanceAs (Decidable (_ ∨ _))

theorem touches_iff_bearsOn {span : Span} {low high : Int} (nonempty : low < high) :
    span.touches low high = true ↔ span.BearsOn low high := by
  by_cases forward : span.first ≤ span.last
  · have not_reversed : ¬span.IsReversedWithin low high := by
      unfold IsReversedWithin
      omega
    rw [touches_iff_meets forward nonempty, BearsOn, or_iff_left not_reversed]
  · -- A reversed span has no pixels, so it can only be found by its ends.
    have not_whole : span ≠ .wholeEdge := by
      rintro rfl
      exact forward (Nat.le_refl 0)
    have no_pixel : ¬span.Meets low high := by
      rintro (whole | ⟨position, -, onSpan⟩)
      · exact not_whole whole
      · omega
    rw [BearsOn, or_iff_right no_pixel, IsReversedWithin]
    simp only [touches, Bool.or_eq_true, beq_iff_eq, Bool.and_eq_true, decide_eq_true_eq,
      not_whole, false_or]
    omega

end Span

namespace Strut

section Keeping

variable (bears : Span → Int → Int → Prop) [∀ span low high, Decidable (bears span low high)]

/-- A strut with its insets set to zero along those spans that do not bear on a head. -/
def keeping (strut : Strut) (head : Rect) : Strut :=
  { strut with
    left := if bears strut.leftSpan head.y head.bottom then strut.left else 0
    right := if bears strut.rightSpan head.y head.bottom then strut.right else 0
    top := if bears strut.topSpan head.x head.right then strut.top else 0
    bottom := if bears strut.bottomSpan head.x head.right then strut.bottom else 0 }

variable {bears}

theorem kept_inset {kept touches : Prop} [Decidable kept] {inset : Nat} {P : Nat → Prop}
    (holds : 0 < inset ∧ touches → P inset) :
    (0 < if kept then inset else 0) ∧ touches → P (if kept then inset else 0) := by
  split
  · exact holds
  · rintro ⟨positive, -⟩
    contradiction

theorem Admits.keeping {strut : Strut} {root other : Rect} {inner : Edges}
    (admits : strut.Admits other root inner) (head : Rect) :
    (strut.keeping bears head).Admits other root inner where
  left := kept_inset (P := fun inset => saturate (root.x + inset) ≤ inner.left) admits.left
  right := kept_inset (P := fun inset => inner.right ≤ saturate (root.right - inset)) admits.right
  top := kept_inset (P := fun inset => saturate (root.y + inset) ≤ inner.top) admits.top
  bottom :=
    kept_inset (P := fun inset => inner.bottom ≤ saturate (root.bottom - inset)) admits.bottom

theorem CountsFrom.keeping {strut : Strut} {root other : Rect} (counts : strut.CountsFrom other root)
    (head : Rect) : (strut.keeping bears head).CountsFrom other root :=
  ⟨kept_inset (P := fun _ => IsCoordinate root.right) counts.1,
    kept_inset (P := fun _ => IsCoordinate root.bottom) counts.2⟩

end Keeping

theorem kept_applies_iff {bears touches : Prop} [Decidable bears] (same : touches ↔ bears)
    (inset : Nat) : (0 < if bears then inset else 0) ∧ touches ↔ 0 < inset ∧ touches := by
  refine and_congr_left fun touched => ?_
  rw [if_pos (same.mp touched)]

theorem countsFrom_keeping_iff {strut : Strut} {head root : Rect} (wide : 0 < head.width)
    (tall : 0 < head.height) :
    (strut.keeping Span.BearsOn head).CountsFrom head root ↔ strut.CountsFrom head root := by
  have across : head.x < head.right := Int.lt_add_of_pos_right _ wide
  have down : head.y < head.bottom := Int.lt_add_of_pos_right _ tall
  have right : strut.rightSpan.touches head.y head.bottom = true ↔
      strut.rightSpan.BearsOn head.y head.bottom := Span.touches_iff_bearsOn down
  have bottom : strut.bottomSpan.touches head.x head.right = true ↔
      strut.bottomSpan.BearsOn head.x head.right := Span.touches_iff_bearsOn across
  simp only [CountsFrom, Strut.keeping, kept_applies_iff right, kept_applies_iff bottom]

/-- None of the spans of a strut is reversed within a head. -/
structure IsForwardOn (strut : Strut) (head : Rect) : Prop where
  left : ¬strut.leftSpan.IsReversedWithin head.y head.bottom
  right : ¬strut.rightSpan.IsReversedWithin head.y head.bottom
  top : ¬strut.topSpan.IsReversedWithin head.x head.right
  bottom : ¬strut.bottomSpan.IsReversedWithin head.x head.right

instance (strut : Strut) (head : Rect) : Decidable (strut.IsForwardOn head) :=
  decidable_of_iff
    ((¬strut.leftSpan.IsReversedWithin head.y head.bottom ∧
        ¬strut.rightSpan.IsReversedWithin head.y head.bottom) ∧
      ¬strut.topSpan.IsReversedWithin head.x head.right ∧
        ¬strut.bottomSpan.IsReversedWithin head.x head.right)
    ⟨fun ⟨⟨left, right⟩, top, bottom⟩ => ⟨left, right, top, bottom⟩,
      fun ⟨left, right, top, bottom⟩ => ⟨⟨left, right⟩, top, bottom⟩⟩

theorem IsForwardOn.keeping_eq {strut : Strut} {head : Rect} (forward : strut.IsForwardOn head) :
    strut.keeping Span.Meets head = strut.keeping Span.BearsOn head := by
  simp only [keeping, Span.BearsOn, or_iff_left forward.left, or_iff_left forward.right,
    or_iff_left forward.top, or_iff_left forward.bottom]

end Strut

namespace Edges

theorem ite_kept_inset {α : Type} {bears touches : Prop} [Decidable bears] [Decidable touches]
    (same : touches ↔ bears) (inset : Nat) (moved : Nat → α) (edge : α) :
    (if (0 < if bears then inset else 0) ∧ touches then moved (if bears then inset else 0)
      else edge) = if 0 < inset ∧ touches then moved inset else edge := by
  by_cases bear : bears
  · rw [if_pos bear]
  · have idle : ¬touches := mt same.mp bear
    rw [if_neg (idle ∘ And.right), if_neg (idle ∘ And.right)]

variable {root head : Rect} {struts : List Strut}

/-- The insets along spans that do not bear on a head take nothing off it. -/
theorem reserve_keeping (wide : 0 < head.width) (tall : 0 < head.height) (edges : Edges)
    (strut : Strut) : edges.reserve head root (strut.keeping Span.BearsOn head) =
      edges.reserve head root strut := by
  have across : head.x < head.right := Int.lt_add_of_pos_right _ wide
  have down : head.y < head.bottom := Int.lt_add_of_pos_right _ tall
  apply Edges.ext
  · exact ite_kept_inset (Span.touches_iff_bearsOn down) strut.left
      (fun inset => max edges.left (saturate (root.x + inset))) edges.left
  · exact ite_kept_inset (Span.touches_iff_bearsOn down) strut.right
      (fun inset => min edges.right (saturate (root.right - inset))) edges.right
  · exact ite_kept_inset (Span.touches_iff_bearsOn across) strut.top
      (fun inset => max edges.top (saturate (root.y + inset))) edges.top
  · exact ite_kept_inset (Span.touches_iff_bearsOn across) strut.bottom
      (fun inset => min edges.bottom (saturate (root.bottom - inset))) edges.bottom

theorem foldl_reserve_keeping (wide : 0 < head.width) (tall : 0 < head.height)
    (struts : List Strut) (edges : Edges) :
    (struts.map (Strut.keeping Span.BearsOn · head)).foldl (reserve head root) edges =
      struts.foldl (reserve head root) edges := by
  apply foldl_reserve_congr
  rw [List.forall₂_map_right_iff, List.forall₂_same]
  intro strut _ edges
  exact reserve_keeping wide tall edges strut

/-- On the other heads there may be more left without the insets. -/
theorem foldl_reserve_le_keeping (bears : Span → Int → Int → Prop)
    [∀ span low high, Decidable (bears span low high)] (root head other : Rect)
    (struts : List Strut) (edges : Edges) : struts.foldl (reserve other root) edges ≤
      (struts.map (Strut.keeping bears · head)).foldl (reserve other root) edges := by
  obtain ⟨within, admitted⟩ := le_foldl_reserve_iff.mp (le_refl (struts.foldl _ edges))
  apply le_foldl_reserve_iff.mpr
  refine ⟨within, ?_⟩
  intro kept member
  obtain ⟨strut, given, rfl⟩ := List.mem_map.mp member
  exact (admitted strut given).keeping head

end Edges

/-- Of a head, some struts leave the same as others, whether it can be measured or not, and they do
so among any other heads on which those come to something. -/
structure LeaveTheSame (root head : Rect) (struts others : List Strut) : Prop where
  edges : remainder root others head = remainder root struts head
  alone : usableAreas root others [head] = usableAreas root struts [head]
  among : ∀ heads areas : List Rect, (∀ other ∈ heads, other.IsSized) →
    usableAreas root struts heads = .ok areas →
    ∃ areas' : List Rect, usableAreas root others heads = .ok areas' ∧
      ∀ i : Nat, heads[i]? = some head → areas'[i]? = areas[i]?

section Areas

variable {root head : Rect} {struts others : List Strut}

theorem LeaveTheSame.of_foldl_eq
    (fit : FarEdgesFit root others head ↔ FarEdgesFit root struts head)
    (same : others.foldl (Edges.reserve head root) (.ofRect head) =
      struts.foldl (Edges.reserve head root) (.ofRect head))
    (fits : ∀ other, FarEdgesFit root struts other → FarEdgesFit root others other)
    (more : ∀ other, struts.foldl (Edges.reserve other root) (.ofRect other) ≤
      others.foldl (Edges.reserve other root) (.ofRect other)) :
    LeaveTheSame root head struts others := by
  have edges : remainder root others head = remainder root struts head := by
    rw [remainder, remainder, same]
  have area_eq : usableArea root others head = usableArea root struts head :=
    usableArea_congr fit edges
  refine ⟨edges, ?_, ?_⟩
  · apply usableAreas_congr
    rw [List.forall_mem_singleton]
    exact area_eq
  · intro heads areas sized left
    obtain ⟨areas', left'⟩ := exists_usableAreas_of_le sized fits more left
    refine ⟨areas', left', ?_⟩
    intro i found
    rw [getElem?_usableAreas left, getElem?_usableAreas left', found, Option.bind_some,
      Option.bind_some, area_eq]

theorem farEdgesFit_keeping_iff (wide : 0 < head.width) (tall : 0 < head.height)
    (struts : List Strut) :
    FarEdgesFit root (struts.map (Strut.keeping Span.BearsOn · head)) head ↔
      FarEdgesFit root struts head := by
  simp only [FarEdgesFit, List.forall_mem_map, Strut.countsFrom_keeping_iff wide tall]

theorem FarEdgesFit.keeping {bears : Span → Int → Int → Prop}
    [∀ span low high, Decidable (bears span low high)] {other : Rect}
    (fit : FarEdgesFit root struts other) (head : Rect) :
    FarEdgesFit root (struts.map (Strut.keeping bears · head)) other := by
  refine ⟨fit.1, List.forall_mem_map.mpr ?_⟩
  intro strut member
  exact (fit.2 strut member).keeping head

/-- Setting to zero all insets that do not bear on a head leaves the same of the head.  If none of
the spans is reversed within it, these are all insets along spans without a pixel of the head. -/
theorem idle_insets_take_nothing (root head : Rect) (wide : 0 < head.width)
    (tall : 0 < head.height) (struts : List Strut) :
    LeaveTheSame root head struts (struts.map (Strut.keeping Span.BearsOn · head)) ∧
      ((∀ strut ∈ struts, strut.IsForwardOn head) →
        LeaveTheSame root head struts (struts.map (Strut.keeping Span.Meets · head))) := by
  have bearing : LeaveTheSame root head struts (struts.map (Strut.keeping Span.BearsOn · head)) :=
    .of_foldl_eq (farEdgesFit_keeping_iff wide tall struts)
      (Edges.foldl_reserve_keeping wide tall struts _) (fun _ fit => fit.keeping head)
      fun other => Edges.foldl_reserve_le_keeping _ root head other struts _
  refine ⟨bearing, ?_⟩
  intro forward
  -- Where no span is reversed within the head, bearing on it is to have a pixel in common with it.
  have same : struts.map (Strut.keeping Span.Meets · head) =
      struts.map (Strut.keeping Span.BearsOn · head) := by
    apply List.map_congr_left
    intro strut member
    exact (forward strut member).keeping_eq
  rw [same]
  exact bearing

/-- A head around the origin, and two struts.  Both have an inset on the left along a span below
the head, and one at the top along a reversed span that starts beside it.  The first one has two
further insets that do count, one of them along a span that is reversed within the head. -/
theorem surrounding_insets_take_nothing :
    let root : Rect := ⟨0, 0, 100, 100⟩
    let head : Rect := ⟨-50, -20, 100, 100⟩
    let crossing : Strut := ⟨30, 70, 10, 60, ⟨90, 99⟩, ⟨60, 40⟩, ⟨60, 20⟩, ⟨0, 10⟩⟩
    let beside : Strut := ⟨30, 0, 10, 0, ⟨90, 99⟩, .wholeEdge, ⟨60, 20⟩, .wholeEdge⟩
    0 < head.width ∧ 0 < head.height ∧
      LeaveTheSame root head [crossing, beside]
        [{ crossing with left := 0, top := 0 }, { beside with left := 0, top := 0 }] ∧
      beside.IsForwardOn head ∧
      LeaveTheSame root head [beside] [{ beside with left := 0, top := 0 }] ∧
      usableAreas root [crossing, beside] [head] = .ok [⟨-50, -20, 80, 60⟩] := by
  intro root head crossing beside
  have wide : 0 < head.width := by decide
  have tall : 0 < head.height := by decide
  have forward : beside.IsForwardOn head := by decide
  refine ⟨wide, tall, ?_, forward, ?_, by decide⟩
  · exact (idle_insets_take_nothing root head wide tall [crossing, beside]).1
  · exact (idle_insets_take_nothing root head wide tall [beside]).2 (by simpa using forward)

/-- The span of the left inset has no pixels, but without the inset the head loses nothing. -/
theorem reversed_span_takes_off :
    let root : Rect := ⟨0, 0, 100, 100⟩
    let head : Rect := ⟨0, 0, 100, 100⟩
    let strut : Strut := ⟨50, 0, 0, 0, ⟨60, 40⟩, .wholeEdge, .wholeEdge, .wholeEdge⟩
    head.IsSized ∧ 0 < head.width ∧ 0 < head.height ∧
      ¬strut.leftSpan.Meets head.y head.bottom ∧
      strut.keeping Span.Meets head = { strut with left := 0 } ∧
      usableAreas root [strut] [head] = .ok [⟨50, 0, 50, 100⟩] ∧
      usableAreas root [{ strut with left := 0 }] [head] = .ok [⟨0, 0, 100, 100⟩] := by
  decide

end Areas

end WindowPlacement
