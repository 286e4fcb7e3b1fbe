import WindowPlacement.Proofs.InnerAreas
import WindowPlacement.Proofs.PropertyItems

/-!
# Struts along whole edges

A window may declare its insets alone, which reserves whole edges, or together with the parts of
the edges that it reserves.  On a root window that starts at the origin, writing out all four edges
in full says the same as leaving them out: a head on the root window is touched by every span that
goes over the whole edge.
-/

namespace WindowPlacement

namespace Span

theorem touches_wholeEdge (low high : Int) : wholeEdge.touches low high = true :=
  rfl

/-- A span over all pixels of an edge touches whatever lies along that edge. -/
theorem touches_full {low high length : Int} (start : 0 ≤ low) (nonempty : low < high)
    (stop : high ≤ length) : (Span.mk 0 (length - 1).toNat).touches low high = true := by
  have from_zero : ((0 : Nat) : Int) < high := by omega
  have to_end : low ≤ ((length - 1).toNat : Int) := by omega
  simp only [touches, from_zero, to_end, decide_true, Bool.and_self, Bool.or_true]

end Span

/-- The twelve numbers for some insets along all of the edges of a root window. -/
def fullSpanItems (root : Rect) (left right top bottom : Nat) : List Nat :=
  let lastRow := (root.height - 1).toNat
  let lastColumn := (root.width - 1).toNat
  [left, right, top, bottom, 0, lastRow, 0, lastRow, 0, lastColumn, 0, lastColumn]

/-- A strut is read off four insets, and another one off the same insets with the edges of the root
window written out. -/
def Strut.SpelledOut (root : Rect) (strut other : Strut) : Prop :=
  ∃ left right top bottom, ofInsets? [left, right, top, bottom] = some strut ∧
    ofPartial? (fullSpanItems root left right top bottom) = some other

/-- Heads that are not empty lie on a root window that starts at the origin. -/
structure LieOnRoot (root : Rect) (heads : List Rect) : Prop where
  origin : root.x = 0 ∧ root.y = 0
  nonempty : ∀ head ∈ heads, 0 < head.width ∧ 0 < head.height
  contained : ∀ head ∈ heads, root.containsRect head = true

section Areas

variable {root head : Rect} {heads : List Rect} {strut other : Strut} {struts others : List Strut}

theorem LieOnRoot.reserve_eq (onRoot : LieOnRoot root heads) (member : head ∈ heads)
    (spelledOut : strut.SpelledOut root other) (edges : Edges) :
    edges.reserve head root other = edges.reserve head root strut := by
  obtain ⟨left, right, top, bottom, read, read'⟩ := spelledOut
  obtain rfl := Option.some.inj read
  obtain rfl := Option.some.inj read'
  obtain ⟨origin, origin'⟩ := onRoot.origin
  obtain ⟨wide, tall⟩ := onRoot.nonempty head member
  have contained := onRoot.contained head member
  rw [Rect.containsRect_iff, origin, origin'] at contained
  have root_right : root.right = root.width := by rw [Rect.right, origin, Int.zero_add]
  have root_bottom : root.bottom = root.height := by rw [Rect.bottom, origin', Int.zero_add]
  have head_right : head.right = head.x + head.width := rfl
  have head_bottom : head.bottom = head.y + head.height := rfl
  have rows : (Span.mk 0 (root.height - 1).toNat).touches head.y head.bottom = true :=
    Span.touches_full contained.1.2 (by omega) (by omega)
  have columns : (Span.mk 0 (root.width - 1).toNat).touches head.x head.right = true :=
    Span.touches_full contained.1.1 (by omega) (by omega)
  simp only [Edges.reserve, rows, columns, Span.touches_wholeEdge]

theorem LieOnRoot.inRange (onRoot : LieOnRoot root heads) (inRange : root.InRange)
    (member : head ∈ heads) : head.InRange := by
  obtain ⟨left, right, top, bottom⟩ := inRange
  obtain ⟨wide, tall⟩ := onRoot.nonempty head member
  have contained := onRoot.contained head member
  rw [Rect.containsRect_iff] at contained
  simp only [IsCoordinate, Rect.right, Rect.bottom] at *
  constructor
  all_goals
    simp only [IsCoordinate, Rect.right, Rect.bottom]
    omega

theorem LieOnRoot.usableAreas_eq (onRoot : LieOnRoot root heads) (inRange : root.InRange)
    (replaced : List.Forall₂ (fun strut other => other = strut ∨ strut.SpelledOut root other)
      struts others) :
    usableAreas root others heads = usableAreas root struts heads := by
  apply usableAreas_congr
  intro head member
  have fit := farEdgesFit_of_inRange inRange (onRoot.inRange inRange member)
  refine usableArea_congr (iff_of_true (fit others) (fit struts)) ?_
  rw [remainder, remainder, foldl_reserve_congr (replaced.imp ?_)]
  rintro strut other (rfl | spelledOut) edges
  · rfl
  · exact onRoot.reserve_eq member spelledOut edges

end Areas

section Reading

variable {d : Display} {window : WindowId} {found : DisplayWindow} {items : List Nat}

theorem Property.words_ofItems (type : String) (bounded : ∀ item ∈ items, item < 4294967296)
    (few : items.length ≤ 1024) : (ofItems type 32 items).words = items := by
  have read := wordsOfBytes_flatMap_append bounded []
  rw [words_eq_take rfl, ofItems]
  simp only [List.append_nil, wordsOfBytes] at read
  rw [read, List.take_of_length_le few]

theorem Strut.ofPartial?_eq_none (short : items.length < 12) : ofPartial? items = none := by
  unfold ofPartial?
  split
  · simp only [List.length_cons] at short
    omega
  · rfl

/-- The older property counts where the newer one does not have twelve numbers. -/
theorem Display.strut_of_insets (known : d.find? window = some found) {values : List Nat}
    (unspanned : d.words window "_NET_WM_STRUT_PARTIAL" "CARDINAL" = .ok values)
    (short : values.length < 12)
    (given : found.properties.lookup "_NET_WM_STRUT" = some (.ofItems "CARDINAL" 32 items))
    (bounded : ∀ item ∈ items, item < 4294967296) (few : items.length ≤ 1024) :
    d.strut window = .ok (Strut.ofInsets? items) := by
  rw [strut, unspanned]
  simp only [Strut.ofPartial?_eq_none short]
  rw [words_of_present known given, Property.words_ofItems _ bounded few]
  rfl

theorem Display.strut_of_spans (known : d.find? window = some found)
    (given : found.properties.lookup "_NET_WM_STRUT_PARTIAL" =
      some (.ofItems "CARDINAL" 32 items))
    (bounded : ∀ item ∈ items, item < 4294967296) (few : items.length ≤ 1024) {spanned : Strut}
    (read : Strut.ofPartial? items = some spanned) : d.strut window = .ok (some spanned) := by
  rw [strut, words_of_present known given, Property.words_ofItems _ bounded few]
  simp only [Property.ofItems, if_true, read]

end Reading

theorem bounded_fullSpanItems {root : Rect} (inRange : root.InRange)
    (origin : root.x = 0 ∧ root.y = 0) {left right top bottom : Nat}
    (bounded : ∀ inset ∈ [left, right, top, bottom], inset < 4294967296) :
    ∀ item ∈ fullSpanItems root left right top bottom, item < 4294967296 := by
  have lastColumn := inRange.right.2
  have lastRow := inRange.bottom.2
  simp only [Rect.right, Rect.bottom, greatestCoordinate] at lastColumn lastRow
  simp only [fullSpanItems, List.forall_mem_cons, List.not_mem_nil, false_imp_iff,
    implies_true, and_true] at bounded ⊢
  omega

/-- On a root window at the origin, a window with the older property and one with the newer one
that writes out all edges take the same off every head, among any other struts. -/
theorem full_spans_like_whole_edges (root : Rect) (inRange : root.InRange) (heads : List Rect)
    (onRoot : LieOnRoot root heads) :
    (∀ struts others : List Strut,
      List.Forall₂ (fun strut other => other = strut ∨ strut.SpelledOut root other)
        struts others → usableAreas root others heads = usableAreas root struts heads) ∧
    ∀ (d : Display) (window : WindowId) (found : DisplayWindow) (left right top bottom : Nat),
      d.find? window = some found →
      (∀ inset ∈ [left, right, top, bottom], inset < 4294967296) →
      (∀ values, d.words window "_NET_WM_STRUT_PARTIAL" "CARDINAL" = .ok values →
        values.length < 12 → found.properties.lookup "_NET_WM_STRUT" =
          some (.ofItems "CARDINAL" 32 [left, right, top, bottom]) →
        d.strut window = .ok (Strut.ofInsets? [left, right, top, bottom])) ∧
      (found.properties.lookup "_NET_WM_STRUT_PARTIAL" =
          some (.ofItems "CARDINAL" 32 (fullSpanItems root left right top bottom)) →
        d.strut window = .ok (Strut.ofPartial? (fullSpanItems root left right top bottom))) := by
  refine ⟨fun struts others replaced => onRoot.usableAreas_eq inRange replaced, ?_⟩
  intro d window found left right top bottom known bounded
  constructor
  · intro values unspanned short given
    exact Display.strut_of_insets known unspanned short given bounded (by simp)
  · intro given
    exact Display.strut_of_spans known given
      (bounded_fullSpanItems inRange onRoot.origin bounded) (by simp [fullSpanItems]) rfl

/-- Insets on the left and at the bottom of two heads on top of each other, next to a panel along a
part of the top edge; and a display with windows that declare them in both ways. -/
theorem stacked_full_spans_like_whole_edges :
    let root : Rect := ⟨0, 0, 100, 200⟩
    let heads : List Rect := [⟨0, 0, 100, 100⟩, ⟨0, 100, 100, 100⟩]
    let panel : Strut := ⟨0, 0, 20, 0, .wholeEdge, .wholeEdge, ⟨10, 49⟩, .wholeEdge⟩
    let insets : Strut := ⟨30, 0, 0, 50, .wholeEdge, .wholeEdge, .wholeEdge, .wholeEdge⟩
    let spanned : Strut := ⟨30, 0, 0, 50, ⟨0, 199⟩, ⟨0, 199⟩, ⟨0, 99⟩, ⟨0, 99⟩⟩
    let display : Display := ⟨1, root, [], none,
      [(7, ⟨root, [("_NET_WM_STRUT", .ofItems "CARDINAL" 32 [30, 0, 0, 50])]⟩),
        (8, ⟨root, [("_NET_WM_STRUT_PARTIAL",
          .ofItems "CARDINAL" 32 [30, 0, 0, 50, 0, 199, 0, 199, 0, 99, 0, 99])]⟩)]⟩
    root.InRange ∧ LieOnRoot root heads ∧ insets.SpelledOut root spanned ∧
      usableAreas root [insets, panel] heads = .ok [⟨30, 20, 70, 80⟩, ⟨30, 100, 70, 50⟩] ∧
      usableAreas root [spanned, panel] heads = usableAreas root [insets, panel] heads ∧
      display.strut 7 = .ok (some insets) ∧ display.strut 8 = .ok (some spanned) := by
  intro root heads panel insets spanned display
  have inRange : root.InRange := by decide
  have onRoot : LieOnRoot root heads := ⟨by decide, by decide, by decide⟩
  have spelledOut : insets.SpelledOut root spanned := ⟨30, 0, 0, 50, rfl, rfl⟩
  obtain ⟨areas, reading⟩ := full_spans_like_whole_edges root inRange heads onRoot
  refine ⟨inRange, onRoot, spelledOut, by decide, ?_, ?_, ?_⟩
  · exact areas [insets, panel] [spanned, panel]
      (.cons (.inr spelledOut) (.cons (.inl rfl) .nil))
  · exact (reading display 7 _ 30 0 0 50 rfl (by decide)).1 [] rfl (by decide) rfl
  · exact (reading display 8 _ 30 0 0 50 rfl (by decide)).2 rfl

end WindowPlacement
