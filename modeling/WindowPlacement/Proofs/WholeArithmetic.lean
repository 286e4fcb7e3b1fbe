import WindowPlacement.Proofs.Comparison

/-!
# Arithmetic of whole numbers

The whole numbers up to two to the power of 53 are binary64 numbers, with all bits of a significand.
So where the sum, the difference or the product of two numbers is one of them, there is nothing to
round: the result is exact.
-/

namespace WindowPlacement

open Float.Model Float.Model.UnpackedFloat Decimal

section Signs

variable {sign sign' : Sign} {significand significand' : ℕ} {exponent exponent' : ℤ}

theorem abs_rationalOf (sign : Sign) (significand : ℕ) (exponent : ℤ) :
    |rationalOf sign significand exponent| = significand * 2 ^ exponent := by
  have not_negative : (0 : ℚ) ≤ significand * 2 ^ exponent := by positivity
  cases sign with
  | positive => rw [rationalOf_positive, abs_of_nonneg not_negative]
  | negative => rw [rationalOf_negative, abs_neg, abs_of_nonneg not_negative]

theorem magnitude_of_whole {n : ℤ} (whole : rationalOf sign significand exponent = n) :
    (significand * 2 ^ exponent : ℚ) = n.natAbs := by
  rw [← abs_rationalOf sign, whole, Nat.cast_natAbs, Int.cast_abs]

theorem rationalOf_neg_sign (sign : Sign) (significand : ℕ) (exponent : ℤ) :
    rationalOf (-sign) significand exponent = -rationalOf sign significand exponent := by
  cases sign with
  | positive => exact (rationalOf_negative _ _).trans (by rw [rationalOf_positive])
  | negative => exact (rationalOf_positive _ _).trans (by rw [rationalOf_negative, neg_neg])

theorem rationalOf_mul :
    rationalOf sign significand exponent * rationalOf sign' significand' exponent' =
      rationalOf (sign * sign') (significand * significand') (exponent + exponent') := by
  have magnitudes : (significand * 2 ^ exponent * (significand' * 2 ^ exponent') : ℚ) =
      (significand * significand' : ℕ) * 2 ^ (exponent + exponent') := by
    rw [zpow_add₀ two_ne_zero]
    push_cast
    ring
  cases sign <;> cases sign' <;>
    simp only [rationalOf_positive, rationalOf_negative, neg_mul, mul_neg, neg_neg, magnitudes]
  · exact (rationalOf_positive _ _).symm
  · exact (rationalOf_negative _ _).symm
  · exact (rationalOf_negative _ _).symm
  · exact (rationalOf_positive _ _).symm

end Signs

section Rounding

/-- A whole number up to two to the power of 53 is a number with all bits of a significand. -/
theorem exists_normal_of_whole {n : ℕ} (positive : 0 < n) (bounded : n ≤ 2 ^ 53) :
    ∃ b : Binary, b.IsCanonical ∧ 2 ^ 52 ≤ b.significand ∧
      (b.significand * 2 ^ b.exponent : ℚ) = n := by
  rcases bounded.lt_or_eq with less | rfl
  · exact ⟨.ofWhole n, Binary.isCanonical_ofWhole positive less,
      (Binary.significand_ofWhole positive less).1, Binary.value_ofWhole positive less⟩
  · refine ⟨⟨2 ^ 52, 1⟩, ?_, le_rfl, by norm_num⟩
    constructor <;> norm_num

theorem roundWithAccuracy_negative (format : Format) (mantissa : ℕ) (exponent : ℤ)
    (accuracy : Accuracy) :
    roundWithAccuracy format .negative mantissa exponent accuracy =
      (roundWithAccuracy format .positive mantissa exponent accuracy).neg := by
  simp only [roundWithAccuracy]
  split_ifs <;> rfl

variable {sign : Sign} {mantissa : ℕ} {exponent n : ℤ}

theorem rationalIn_zero (sign : Sign) :
    rationalIn (Float.Model.pack (.zero sign)).unpack = some 0 := by
  cases sign <;> rfl

theorem exists_normal_of_rationalOf (positive : 0 < mantissa) (bounded : n.natAbs ≤ 2 ^ 53)
    (whole : rationalOf sign mantissa exponent = n) :
    ∃ b : Binary, b.IsCanonical ∧ 2 ^ 52 ≤ b.significand ∧
      (b.significand * 2 ^ b.exponent : ℚ) = mantissa * 2 ^ exponent := by
  have magnitude := magnitude_of_whole whole
  have magnitude_pos : 0 < n.natAbs := by
    have product_pos : (0 : ℚ) < mantissa * 2 ^ exponent := by positivity
    rw [magnitude] at product_pos
    exact_mod_cast product_pos
  rw [magnitude]
  exact exists_normal_of_whole magnitude_pos bounded

theorem rationalOf_congr {significand : ℕ} {exponent' : ℤ} (sign : Sign)
    (same : (significand * 2 ^ exponent' : ℚ) = mantissa * 2 ^ exponent) :
    rationalOf sign significand exponent' = rationalOf sign mantissa exponent := by
  cases sign with
  | positive => rw [rationalOf_positive, rationalOf_positive, same]
  | negative => rw [rationalOf_negative, rationalOf_negative, same]

/-- Rounding leaves a whole number as it is. -/
theorem rationalIn_roundWithAccuracy (positive : 0 < mantissa) (bounded : n.natAbs ≤ 2 ^ 53)
    (whole : rationalOf sign mantissa exponent = n)
    (long : 52 ≤ mantissa.log2 ∨ exponent ≤ -1074) :
    rationalIn (Float.Model.pack
      (roundWithAccuracy Format.binary64 sign mantissa exponent .exact)).unpack =
        some (n : ℚ) := by
  obtain ⟨b, canonical, normal, same⟩ := exists_normal_of_rationalOf positive bounded whole
  have unit_pos : (0 : ℚ) < 2 ^ exponent := by positivity
  have cuts := Cuts.exact mantissa
  rw [← mul_div_cancel_right₀ (mantissa : ℚ) unit_pos.ne', ← same] at cuts
  have rounded_positive := canonical.roundWithAccuracy_eq canonical.contains_value cuts long
  have rounded : roundWithAccuracy Format.binary64 sign mantissa exponent .exact =
      .finite sign b.significand b.exponent canonical.positive := by
    cases sign with
    | positive => exact rounded_positive
    | negative =>
      rw [roundWithAccuracy_negative, rounded_positive]
      rfl
  rw [rounded, canonical.unpack_pack normal, rationalIn, rationalOf_congr sign same, whole]

theorem log2_le_log2_shiftLeft (positive : 0 < mantissa) (count : ℕ) :
    mantissa.log2 + count ≤ (mantissa <<< count).log2 := by
  have least := Nat.log2_self_le positive.ne'
  have shifted_pos : mantissa <<< count ≠ 0 := by
    rw [Nat.shiftLeft_eq]
    positivity
  rw [Nat.le_log2 shifted_pos, Nat.shiftLeft_eq, Nat.pow_add]
  exact Nat.mul_le_mul_right _ least

theorem value_decreaseExponent (mantissa : ℕ) (exponent target : ℤ) :
    ((decreaseExponent mantissa exponent target).1 : ℚ) *
      2 ^ (decreaseExponent mantissa exponent target).2 = mantissa * 2 ^ exponent := by
  have two_ne_zero : (2 : ℚ) ≠ 0 := by norm_num
  simp only [decreaseExponent, Nat.shiftLeft_eq, zpow_sub₀ two_ne_zero, zpow_natCast]
  push_cast
  field_simp

theorem rationalIn_round (positive : 0 < mantissa) (bounded : n.natAbs ≤ 2 ^ 53)
    (whole : rationalOf sign mantissa exponent = n) :
    rationalIn (Float.Model.pack
      (UnpackedFloat.round Format.binary64 sign mantissa exponent)).unpack = some (n : ℚ) := by
  simp only [UnpackedFloat.round, targetExponent_totalExponent]
  have same := value_decreaseExponent mantissa exponent
    (max (mantissa.log2 + exponent - 52) (-1074))
  -- The significand has been made long enough, unless the exponent is the lowest one.
  have longer := log2_le_log2_shiftLeft positive
    (exponent - max (mantissa.log2 + exponent - 52) (-1074)).toNat
  refine rationalIn_roundWithAccuracy ?_ bounded ((rationalOf_congr sign same).trans whole) ?_
  · simp only [decreaseExponent, Nat.shiftLeft_eq]
    positivity
  · simp only [decreaseExponent]
    omega

theorem rationalIn_normalize {mantissa : ℤ} (bounded : n.natAbs ≤ 2 ^ 53)
    (whole : (mantissa * 2 ^ exponent : ℚ) = n) :
    rationalIn (Float.Model.pack
      (UnpackedFloat.normalize Format.binary64 mantissa exponent .positive)).unpack =
        some (n : ℚ) := by
  rcases lt_trichotomy mantissa 0 with negative | rfl | positive
  · have sign : compare mantissa 0 = .lt := Int.compare_eq_lt.mpr negative
    obtain ⟨magnitude, rfl⟩ : ∃ m : ℕ, mantissa = -m := ⟨mantissa.natAbs, by omega⟩
    simp only [UnpackedFloat.normalize, sign, neg_neg, Int.toNat_natCast]
    exact rationalIn_round (by omega) bounded whole
  · have sign : compare (0 : ℤ) 0 = .eq := Int.compare_eq_eq.mpr rfl
    have zero : (n : ℚ) = 0 := by simpa using whole.symm
    rw [zero, UnpackedFloat.normalize, sign]
    exact rationalIn_zero .positive
  · have sign : compare mantissa 0 = .gt := Int.compare_eq_gt.mpr positive
    lift mantissa to ℕ using positive.le
    simp only [UnpackedFloat.normalize, sign, Int.toNat_natCast]
    exact rationalIn_round (by omega) bounded whole

end Rounding

section Arithmetic

variable {u v : UnpackedFloat} {x y : ℚ} {n : ℤ}

theorem rationalIn_pack (canonical : HasCanonicalParts u) (bounded : n.natAbs ≤ 2 ^ 53)
    (at_u : rationalIn u = some (n : ℚ)) :
    rationalIn (Float.Model.pack u).unpack = some (n : ℚ) := by
  cases u with
  | notANumber => cases at_u
  | infinity sign => cases at_u
  | zero sign => exact (rationalIn_zero sign).trans at_u
  | finite sign significand exponent positive =>
    have whole : rationalOf sign significand exponent = n := Option.some.inj at_u
    obtain ⟨b, canonical', normal, same⟩ := exists_normal_of_rationalOf positive bounded whole
    obtain rfl := magnitudes_inj canonical' canonical same
    have unpacked := canonical'.unpack_pack normal sign
    rw [unpacked, rationalIn, whole]

theorem hasCanonicalParts_neg (canonical : HasCanonicalParts u) : HasCanonicalParts u.neg := by
  cases u <;> exact canonical

theorem rationalIn_neg (at_u : rationalIn u = some x) : rationalIn u.neg = some (-x) := by
  cases u with
  | notANumber => cases at_u
  | infinity sign => cases at_u
  | zero sign =>
    obtain rfl := Option.some.inj at_u
    rw [neg_zero]
    rfl
  | finite sign significand exponent positive =>
    obtain rfl := Option.some.inj at_u
    rw [UnpackedFloat.neg, rationalIn, rationalOf_neg_sign]

theorem rationalOf_decreaseExponent (sign : Sign) (significand : ℕ) {exponent target : ℤ}
    (lower : target ≤ exponent) :
    (sign.apply (decreaseExponent significand exponent target).1 * 2 ^ target : ℚ) =
      rationalOf sign significand exponent := by
  have same := value_decreaseExponent significand exponent target
  have reached : (decreaseExponent significand exponent target).2 = target := by
    simp only [decreaseExponent]
    omega
  rw [reached] at same
  exact rationalOf_congr sign same

theorem rationalIn_add (canonical : HasCanonicalParts u) (canonical' : HasCanonicalParts v)
    (at_u : rationalIn u = some x) (at_v : rationalIn v = some y) (bounded : n.natAbs ≤ 2 ^ 53)
    (sum : x + y = n) :
    rationalIn (Float.Model.pack (UnpackedFloat.add Format.binary64 u v)).unpack =
      some (n : ℚ) := by
  cases u with
  | notANumber => cases at_u
  | infinity sign => cases at_u
  | zero sign =>
    obtain rfl := Option.some.inj at_u
    rw [zero_add] at sum
    subst sum
    cases v with
    | notANumber => cases at_v
    | infinity sign' => cases at_v
    | zero sign' =>
      rw [← at_v]
      cases sign <;> cases sign' <;> exact rationalIn_zero _
    | finite sign' significand' exponent' positive' =>
      exact rationalIn_pack canonical' bounded at_v
  | finite sign significand exponent positive =>
    cases v with
    | notANumber => cases at_v
    | infinity sign' => cases at_v
    | zero sign' =>
      obtain rfl := Option.some.inj at_v
      rw [add_zero] at sum
      subst sum
      exact rationalIn_pack canonical bounded at_u
    | finite sign' significand' exponent' positive' =>
      obtain rfl := Option.some.inj at_u
      obtain rfl := Option.some.inj at_v
      -- Both significands are shifted up to the smaller exponent, where they are added as integers.
      have aligned := rationalOf_decreaseExponent sign significand (min_le_left exponent exponent')
      have aligned' :=
        rationalOf_decreaseExponent sign' significand' (min_le_right exponent exponent')
      apply rationalIn_normalize bounded
      rw [← sum, ← aligned, ← aligned', Int.cast_add, add_mul]
      rfl

theorem sub_eq_add_opposite (format : Format) (u v : UnpackedFloat) :
    u.sub format v = u.add format v.neg := by
  cases u with
  | finite sign significand exponent positive =>
    cases v with
    | finite sign' significand' exponent' positive' =>
      cases sign' with
      | positive => rfl
      | negative =>
        simp only [UnpackedFloat.sub, UnpackedFloat.add, UnpackedFloat.neg, Sign.apply,
          sub_neg_eq_add]
    | _ => rfl
  | _ => cases v <;> rfl

theorem le_log2_mul {significand significand' : ℕ} (normal : 2 ^ 52 ≤ significand)
    (positive : 0 < significand') : 52 ≤ (significand * significand').log2 := by
  have longer : significand ≤ significand * significand' := Nat.le_mul_of_pos_right _ positive
  exact (Nat.le_log2 (by omega)).mpr (normal.trans longer)

theorem long_mul {b c : Binary} (canonical : b.IsCanonical) (canonical' : c.IsCanonical) :
    52 ≤ (b.significand * c.significand).log2 ∨ b.exponent + c.exponent ≤ -1074 := by
  rcases canonical.normal with lowest | normal
  · rcases canonical'.normal with lowest' | normal'
    · right
      omega
    · left
      rw [mul_comm]
      exact le_log2_mul normal' canonical.positive
  · exact .inl (le_log2_mul normal canonical'.positive)

theorem rationalIn_mul (canonical : HasCanonicalParts u) (canonical' : HasCanonicalParts v)
    (at_u : rationalIn u = some x) (at_v : rationalIn v = some y) (bounded : n.natAbs ≤ 2 ^ 53)
    (product : x * y = n) :
    rationalIn (Float.Model.pack (UnpackedFloat.mul Format.binary64 u v)).unpack =
      some (n : ℚ) := by
  cases u with
  | notANumber => cases at_u
  | infinity sign => cases at_u
  | zero sign =>
    obtain rfl := Option.some.inj at_u
    rw [← product, zero_mul]
    cases v with
    | notANumber => cases at_v
    | infinity sign' => cases at_v
    | zero sign' => exact rationalIn_zero _
    | finite sign' significand' exponent' positive' => exact rationalIn_zero _
  | finite sign significand exponent positive =>
    cases v with
    | notANumber => cases at_v
    | infinity sign' => cases at_v
    | zero sign' =>
      obtain rfl := Option.some.inj at_v
      rw [← product, mul_zero]
      exact rationalIn_zero _
    | finite sign' significand' exponent' positive' =>
      obtain rfl := Option.some.inj at_u
      obtain rfl := Option.some.inj at_v
      rw [rationalOf_mul] at product
      exact rationalIn_roundWithAccuracy (Nat.mul_pos positive positive') bounded product
        (long_mul canonical canonical')

end Arithmetic

section Values

variable {a b : Float} {x y : ℚ} {n : ℤ}

theorem rational?_add (at_a : rational? a = some x) (at_b : rational? b = some y)
    (bounded : n.natAbs ≤ 2 ^ 53) (sum : x + y = n) : rational? (a + b) = some (n : ℚ) :=
  rationalIn_add (hasCanonicalParts_unpack a) (hasCanonicalParts_unpack b) at_a at_b bounded sum

theorem rational?_sub (at_a : rational? a = some x) (at_b : rational? b = some y)
    (bounded : n.natAbs ≤ 2 ^ 53) (difference : x - y = n) :
    rational? (a - b) = some (n : ℚ) := by
  have canonical := hasCanonicalParts_neg (hasCanonicalParts_unpack b)
  have added := rationalIn_add (hasCanonicalParts_unpack a) canonical at_a (rationalIn_neg at_b)
    bounded ((sub_eq_add_neg x y).symm.trans difference)
  rwa [← sub_eq_add_opposite] at added

theorem rational?_mul (at_a : rational? a = some x) (at_b : rational? b = some y)
    (bounded : n.natAbs ≤ 2 ^ 53) (product : x * y = n) : rational? (a * b) = some (n : ℚ) :=
  rationalIn_mul (hasCanonicalParts_unpack a) (hasCanonicalParts_unpack b) at_a at_b bounded
    product

theorem placeOf_of_rationalIn {u : UnpackedFloat} (at_u : rationalIn u = some x) :
    placeOf u = some ((x : WithTop ℚ) : WithBot (WithTop ℚ)) := by
  cases u with
  | notANumber => cases at_u
  | infinity sign => cases at_u
  | zero sign =>
    obtain rfl := Option.some.inj at_u
    rfl
  | finite sign significand exponent positive =>
    obtain rfl := Option.some.inj at_u
    rfl

theorem lt_iff_of_rational? (at_a : rational? a = some x) (at_b : rational? b = some y) :
    a < b ↔ x < y := by
  have place : place? a = _ := placeOf_of_rationalIn at_a
  have place' : place? b = _ := placeOf_of_rationalIn at_b
  rw [lt_iff_place?_lt, place, place']
  simp

end Values

end WindowPlacement
