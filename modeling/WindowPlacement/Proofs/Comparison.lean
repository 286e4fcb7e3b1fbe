import WindowPlacement.Proofs.WholeNumbers

/-!
# The order of binary64 numbers

A finite number is a rational, and the others are two infinities and what is no number.  Numbers are
compared by sign, then by exponent and then by significand, which is how the rationals and the
infinities lie on the line; what is no number is neither above nor below anything.
-/

namespace WindowPlacement

open Float.Model Float.Model.UnpackedFloat Decimal

/-- Where a number lies among the rationals and the two infinities; what is no number lies
nowhere. -/
def placeOf : UnpackedFloat → Option (WithBot (WithTop ℚ))
  | .notANumber => none
  | .infinity .positive => some ((⊤ : WithTop ℚ) : WithBot (WithTop ℚ))
  | .infinity .negative => some ⊥
  | .zero _ => some ((0 : ℚ) : WithTop ℚ)
  | .finite sign significand exponent _ =>
    some ((rationalOf sign significand exponent : ℚ) : WithTop ℚ)

section Magnitudes

variable {b c : Binary}

theorem Decimal.Binary.IsCanonical.lt_of_exponent_lt (small : b.IsCanonical) (large : c.IsCanonical)
    (less : b.exponent < c.exponent) :
    (b.significand : ℚ) * 2 ^ b.exponent < c.significand * 2 ^ c.exponent := by
  have lowest := small.lowest
  have normal : 2 ^ 52 ≤ c.significand := large.normal.resolve_left (by omega)
  have bounded : (b.significand : ℚ) < 2 ^ 53 := by exact_mod_cast small.bounded
  have least : (2 : ℚ) ^ 52 ≤ c.significand := by exact_mod_cast normal
  have unit_pos : (0 : ℚ) < 2 ^ b.exponent := by positivity
  have unit_le : (2 : ℚ) ^ (b.exponent + 1) ≤ 2 ^ c.exponent :=
    zpow_le_zpow_right₀ one_le_two less
  calc (b.significand : ℚ) * 2 ^ b.exponent < 2 ^ 53 * 2 ^ b.exponent :=
        mul_lt_mul_of_pos_right bounded unit_pos
    _ = 2 ^ 52 * 2 ^ (b.exponent + 1) := by rw [zpow_add_one₀ two_ne_zero]; ring
    _ ≤ c.significand * 2 ^ c.exponent := mul_le_mul least unit_le (by positivity) (by positivity)

/-- Finite numbers without signs are compared by exponent first and by significand then. -/
theorem compare_magnitudes (canonical : b.IsCanonical) (canonical' : c.IsCanonical) :
    (compare b.exponent c.exponent).then (compare b.significand c.significand) =
      compare (b.significand * 2 ^ b.exponent : ℚ) (c.significand * 2 ^ c.exponent) := by
  rcases lt_trichotomy b.exponent c.exponent with less | same | greater
  · rw [compare_lt_iff_lt.mpr less,
      compare_lt_iff_lt.mpr (canonical.lt_of_exponent_lt canonical' less)]
    rfl
  · have unit_pos : (0 : ℚ) < 2 ^ c.exponent := by positivity
    rw [same, compare_eq_iff_eq.mpr rfl, ← cmp_eq_compare (_ * _), cmp_mul_pos_right unit_pos,
      Nat.strictMono_cast.cmp_map_eq, cmp_eq_compare]
    rfl
  · rw [compare_gt_iff_gt.mpr greater,
      compare_gt_iff_gt.mpr (canonical'.lt_of_exponent_lt canonical greater)]
    rfl

end Magnitudes

/-- A number is not finite, or its significand and its exponent are canonical. -/
def HasCanonicalParts : UnpackedFloat → Prop
  | .finite _ significand exponent _ => Binary.IsCanonical ⟨significand, exponent⟩
  | _ => True

theorem hasCanonicalParts_unpack (value : Float) : HasCanonicalParts value.toModel.unpack := by
  cases unpacked : value.toModel.unpack with
  | finite sign significand exponent positive => exact isCanonical_of_unpack unpacked
  | _ => trivial

theorem rationalOf_pos {significand : ℕ} (positive : 0 < significand) (exponent : ℤ) :
    0 < rationalOf .positive significand exponent := by
  rw [rationalOf_positive]
  positivity

theorem rationalOf_neg {significand : ℕ} (positive : 0 < significand) (exponent : ℤ) :
    rationalOf .negative significand exponent < 0 := by
  rw [rationalOf_negative, neg_lt_zero]
  positivity

theorem lt_finite_iff (sign sign' : Sign) {b c : Binary} (canonical : b.IsCanonical)
    (canonical' : c.IsCanonical) :
    (UnpackedFloat.finite sign b.significand b.exponent canonical.positive).lt
        (.finite sign' c.significand c.exponent canonical'.positive) = true ↔
      rationalOf sign b.significand b.exponent < rationalOf sign' c.significand c.exponent := by
  have same_sign := compare_magnitudes canonical canonical'
  have below := rationalOf_neg canonical.positive b.exponent
  have above := rationalOf_pos canonical.positive b.exponent
  have below' := rationalOf_neg canonical'.positive c.exponent
  have above' := rationalOf_pos canonical'.positive c.exponent
  cases sign with
  | positive =>
    cases sign' with
    | positive =>
      rw [UnpackedFloat.lt, UnpackedFloat.compare, same_sign, rationalOf_positive,
        rationalOf_positive, beq_iff_eq, Option.some.injEq, compare_lt_iff_lt]
    | negative => simp [UnpackedFloat.lt, UnpackedFloat.compare, (below'.trans above).le]
  | negative =>
    cases sign' with
    | positive => simp [UnpackedFloat.lt, UnpackedFloat.compare, below.trans above']
    | negative =>
      rw [UnpackedFloat.lt, UnpackedFloat.compare, same_sign, rationalOf_negative,
        rationalOf_negative, beq_iff_eq, Option.some.injEq, Ordering.swap_eq_lt,
        compare_gt_iff_gt, neg_lt_neg_iff]

theorem rational_lt_top (x : ℚ) : ((x : WithTop ℚ) : WithBot (WithTop ℚ)) < ⊤ :=
  WithBot.coe_lt_coe.mpr (WithTop.coe_lt_top x)

theorem lt_iff_placeOf_lt {u v : UnpackedFloat} (canonical : HasCanonicalParts u)
    (canonical' : HasCanonicalParts v) :
    u.lt v = true ↔ ∃ p ∈ placeOf u, ∃ q ∈ placeOf v, p < q := by
  have signs : compare Sign.negative Sign.positive = .lt := rfl
  have zero_lt_top : (0 : WithBot (WithTop ℚ)) < ⊤ := rational_lt_top 0
  cases u with
  | notANumber => simp [UnpackedFloat.lt, UnpackedFloat.compare, placeOf]
  | infinity sign =>
    cases sign <;> cases v with
    | infinity sign' =>
      cases sign' <;> simp [UnpackedFloat.lt, UnpackedFloat.compare, placeOf, signs]
    | _ => simp [UnpackedFloat.lt, UnpackedFloat.compare, placeOf]
  | zero sign =>
    cases v with
    | notANumber => simp [UnpackedFloat.lt, UnpackedFloat.compare, placeOf]
    | infinity sign' =>
      cases sign' <;> simp [UnpackedFloat.lt, UnpackedFloat.compare, placeOf, zero_lt_top]
    | zero sign' => simp [UnpackedFloat.lt, UnpackedFloat.compare, placeOf]
    | finite sign' significand exponent positive =>
      have below := rationalOf_neg positive exponent
      have above := rationalOf_pos positive exponent
      cases sign' <;> simp [UnpackedFloat.lt, UnpackedFloat.compare, placeOf, above, below.le]
  | finite sign significand exponent positive =>
    have below := rationalOf_neg positive exponent
    have above := rationalOf_pos positive exponent
    cases v with
    | notANumber => cases sign <;> simp [UnpackedFloat.lt, UnpackedFloat.compare, placeOf]
    | infinity sign' =>
      cases sign <;> cases sign' <;>
        simp [UnpackedFloat.lt, UnpackedFloat.compare, placeOf, rational_lt_top]
    | zero sign' =>
      cases sign <;> simp [UnpackedFloat.lt, UnpackedFloat.compare, placeOf, above.le, below]
    | finite sign' significand' exponent' positive' =>
      have compared := lt_finite_iff sign sign' canonical canonical'
      simp [compared, placeOf]

theorem magnitudes_inj {b c : Binary} (canonical : b.IsCanonical) (canonical' : c.IsCanonical)
    (same : (b.significand : ℚ) * 2 ^ b.exponent = c.significand * 2 ^ c.exponent) : b = c := by
  have compared := compare_magnitudes canonical canonical'
  rw [compare_eq_iff_eq.mpr same, Ordering.then_eq_eq, compare_eq_iff_eq, compare_eq_iff_eq]
    at compared
  obtain ⟨exponent_eq, significand_eq⟩ := compared
  rw [Binary.mk.injEq]
  exact ⟨significand_eq, exponent_eq⟩

theorem finite_eq_of_rationalOf_eq {sign sign' : Sign} {b c : Binary} (canonical : b.IsCanonical)
    (canonical' : c.IsCanonical)
    (same : rationalOf sign b.significand b.exponent = rationalOf sign' c.significand c.exponent) :
    sign = sign' ∧ b = c := by
  have below := rationalOf_neg canonical.positive b.exponent
  have above := rationalOf_pos canonical.positive b.exponent
  have below' := rationalOf_neg canonical'.positive c.exponent
  have above' := rationalOf_pos canonical'.positive c.exponent
  cases sign <;> cases sign'
  case negative.positive | positive.negative => linarith
  case negative.negative =>
    rw [rationalOf_negative, rationalOf_negative, neg_inj] at same
    exact ⟨rfl, magnitudes_inj canonical canonical' same⟩
  case positive.positive =>
    rw [rationalOf_positive, rationalOf_positive] at same
    exact ⟨rfl, magnitudes_inj canonical canonical' same⟩

theorem eq_or_zeros_of_placeOf_eq {u v : UnpackedFloat} (canonical : HasCanonicalParts u)
    (canonical' : HasCanonicalParts v) {p : WithBot (WithTop ℚ)} (at_u : placeOf u = some p)
    (at_v : placeOf v = some p) : u = v ∨ ∃ sign sign', u = .zero sign ∧ v = .zero sign' := by
  have same : placeOf u = placeOf v := at_u.trans at_v.symm
  have zero_lt_top : (0 : WithBot (WithTop ℚ)) < ⊤ := rational_lt_top 0
  cases u with
  | notANumber => cases at_u
  | infinity sign =>
    cases v with
    | notANumber => cases at_v
    | infinity sign' => cases sign <;> cases sign' <;> simp [placeOf] at same ⊢
    | zero sign' => cases sign <;> simp [placeOf, zero_lt_top.ne'] at same
    | finite sign' significand' exponent' positive' =>
      cases sign <;> simp [placeOf, (rational_lt_top _).ne'] at same
  | zero sign =>
    cases v with
    | notANumber => cases at_v
    | infinity sign' => cases sign' <;> simp [placeOf, zero_lt_top.ne] at same
    | zero sign' => exact .inr ⟨sign, sign', rfl, rfl⟩
    | finite sign' significand' exponent' positive' =>
      have below' := rationalOf_neg positive' exponent'
      have above' := rationalOf_pos positive' exponent'
      cases sign' <;> simp [placeOf, below'.ne, above'.ne'] at same
  | finite sign significand exponent positive =>
    have below := rationalOf_neg positive exponent
    have above := rationalOf_pos positive exponent
    cases v with
    | notANumber => cases at_v
    | infinity sign' => cases sign' <;> simp [placeOf, (rational_lt_top _).ne] at same
    | zero sign' => cases sign <;> simp [placeOf, below.ne, above.ne'] at same
    | finite sign' significand' exponent' positive' =>
      left
      simp only [placeOf, Option.some.injEq, WithBot.coe_inj, WithTop.coe_inj] at same
      obtain ⟨rfl, parts⟩ := finite_eq_of_rationalOf_eq canonical canonical' same
      obtain ⟨rfl, rfl⟩ := Binary.mk.inj parts
      rfl

def place? (value : Float) : Option (WithBot (WithTop ℚ)) :=
  placeOf value.toModel.unpack

section Places

variable {value other : Float}

theorem isNaN_eq_false_iff : value.isNaN = false ↔ ∃ p, place? value = some p := by
  change value.toModel.unpack.isNaN = false ↔ _
  rw [place?]
  cases value.toModel.unpack with
  | infinity sign => cases sign <;> simp [UnpackedFloat.isNaN, placeOf]
  | _ => simp [UnpackedFloat.isNaN, placeOf]

theorem lt_iff_place?_lt : value < other ↔ ∃ p ∈ place? value, ∃ q ∈ place? other, p < q := by
  change decide (value.toModel.unpack.lt other.toModel.unpack = true) = true ↔ _
  rw [decide_eq_true_iff]
  exact lt_iff_placeOf_lt (hasCanonicalParts_unpack value) (hasCanonicalParts_unpack other)

def EqUpToZeroSign (value other : Float) : Prop :=
  value = other ∨ value = 0.0 ∧ other = -0.0 ∨ value = -0.0 ∧ other = 0.0

theorem eqUpToZeroSign_of_not_lt (number : value.isNaN = false) (number' : other.isNaN = false)
    (not_lt : ¬value < other) (not_gt : ¬other < value) :
    EqUpToZeroSign value other := by
  obtain ⟨p, at_value⟩ := isNaN_eq_false_iff.mp number
  obtain ⟨q, at_other⟩ := isNaN_eq_false_iff.mp number'
  have same : p = q := by
    rcases lt_trichotomy p q with less | same | greater
    · exact absurd (lt_iff_place?_lt.mpr ⟨p, at_value, q, at_other, less⟩) not_lt
    · exact same
    · exact absurd (lt_iff_place?_lt.mpr ⟨q, at_other, p, at_value, greater⟩) not_gt
  subst same
  have zero_of : ∀ {zero : Float}, zero.toModel.unpack = .zero .positive → zero = 0.0 :=
    fun unpacked => eq_of_unpack_eq unpacked
  have negative_zero_of : ∀ {zero : Float}, zero.toModel.unpack = .zero .negative → zero = -0.0 :=
    fun unpacked => eq_of_unpack_eq unpacked
  rcases eq_or_zeros_of_placeOf_eq (hasCanonicalParts_unpack value)
    (hasCanonicalParts_unpack other) at_value at_other with unpacked | ⟨sign, sign', zero, zero'⟩
  · exact .inl (eq_of_unpack_eq unpacked)
  · cases sign <;> cases sign'
    · exact .inl (eq_of_unpack_eq (zero.trans zero'.symm))
    · exact .inr (.inr ⟨negative_zero_of zero, zero_of zero'⟩)
    · exact .inr (.inl ⟨zero_of zero, negative_zero_of zero'⟩)
    · exact .inl (eq_of_unpack_eq (zero.trans zero'.symm))

end Places

end WindowPlacement
