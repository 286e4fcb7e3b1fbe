import WindowPlacement.Proofs.Nearest
import WindowPlacement.Proofs.Truncation
import WindowPlacement.Proofs.Unpacking
import WindowPlacement.Proofs.UsableArea

/-!
# Whole numbers as binary64 numbers

A whole number of at most 53 bits is a binary64 number: turning it into one rounds nothing.  So a
32-bit coordinate that an expression refers to comes out as it went in.
-/

namespace WindowPlacement.Decimal

open Float.Model Float.Model.UnpackedFloat

section Packing

theorem toNat_one_append {mantissa : ℕ} (least : 2 ^ 52 ≤ mantissa)
    (bounded : mantissa < 2 ^ 53) : (1#1 ++ BitVec.ofNat 52 mantissa).toNat = mantissa := by
  rw [BitVec.toNat_append, ← Nat.shiftLeft_add_eq_or_of_lt (BitVec.ofNat 52 mantissa).isLt,
    Nat.shiftLeft_eq, BitVec.toNat_ofNat, BitVec.toNat_ofNat]
  omega

/-- A number with all bits of a significand is found again in its own bits. -/
theorem Binary.IsCanonical.unpack_pack {b : Binary} (canonical : b.IsCanonical)
    (normal : 2 ^ 52 ≤ b.significand) (sign : Sign) :
    (Float.Model.pack (.finite sign b.significand b.exponent canonical.positive)).unpack =
      .finite sign b.significand b.exponent canonical.positive := by
  have lowest := canonical.lowest
  have highest := canonical.highest
  set biased := (b.exponent + 1075).toNat with biased_def
  have biased_eq : (biased : ℤ) = b.exponent + 1075 := by omega
  have exponent_toNat : (BitVec.ofNat 11 biased).toNat = biased := by
    rw [BitVec.toNat_ofNat]
    omega
  -- The greatest exponent is that of the infinities, and zero that of the tiny numbers.
  have finite : BitVec.ofNat 11 biased ≠ -1#11 := by
    intro infinite
    have same := congrArg BitVec.toNat infinite
    rw [exponent_toNat] at same
    simp at same
    omega
  have not_tiny : BitVec.ofNat 11 biased ≠ 0#11 := by
    intro tiny
    have same := congrArg BitVec.toNat tiny
    rw [exponent_toNat] at same
    simp at same
    omega
  change UnpackedFloat.unpack Format.binary64 (UnpackedFloat.pack Format.binary64 _) = _
  rw [canonical.pack_of_normal normal sign, ← biased_def, UnpackedFloat.unpack]
  simp only [unpackMantissa_packComponents, unpackExponent_packComponents,
    unpackSign_packComponents, Sign.ofBitVec_toBitVec]
  rw [if_neg finite, if_neg not_tiny]
  have significand_eq := toNat_one_append normal canonical.bounded
  have exponent_eq : ((BitVec.ofNat 11 biased).toNat : ℤ) - ((Format.binary64.exponentBias : ℕ) +
      (Format.binary64.mantissaBitsWithoutImplicit : ℕ)) = b.exponent := by
    rw [exponent_toNat, biased_eq]
    simp only [Format.exponentBias]
    omega
  simp only [significand_eq, exponent_eq]

end Packing

section Whole

/-- The number with a whole number of at most 53 bits, shifted up to all bits of a significand. -/
def Binary.ofWhole (n : ℕ) : Binary :=
  ⟨n <<< (52 - n.log2), n.log2 - 52⟩

variable {n : ℕ}

theorem Binary.significand_ofWhole (positive : 0 < n) (bounded : n < 2 ^ 53) :
    2 ^ 52 ≤ (Binary.ofWhole n).significand ∧ (Binary.ofWhole n).significand < 2 ^ 53 := by
  have short : n.log2 < 53 := (Nat.log2_lt positive.ne').mpr bounded
  have least := Nat.log2_self_le positive.ne'
  have greatest : n < 2 ^ (n.log2 + 1) := Nat.lt_log2_self
  have shifted : n.log2 + (52 - n.log2) = 52 := by omega
  rw [Binary.ofWhole, Nat.shiftLeft_eq]
  constructor
  · calc 2 ^ 52 = 2 ^ n.log2 * 2 ^ (52 - n.log2) := by rw [← Nat.pow_add, shifted]
      _ ≤ n * 2 ^ (52 - n.log2) := Nat.mul_le_mul_right _ least
  · calc n * 2 ^ (52 - n.log2) < 2 ^ (n.log2 + 1) * 2 ^ (52 - n.log2) :=
          Nat.mul_lt_mul_of_pos_right greatest (Nat.two_pow_pos _)
      _ = 2 ^ 53 := by rw [← Nat.pow_add]; congr 1; omega

theorem Binary.isCanonical_ofWhole (positive : 0 < n) (bounded : n < 2 ^ 53) :
    (Binary.ofWhole n).IsCanonical := by
  obtain ⟨least, greatest⟩ := Binary.significand_ofWhole positive bounded
  have short : n.log2 < 53 := (Nat.log2_lt positive.ne').mpr bounded
  refine ⟨(Nat.two_pow_pos 52).trans_le least, greatest, ?_, ?_, .inr least⟩
  · simp only [Binary.ofWhole]
    omega
  · simp only [Binary.ofWhole]
    omega

theorem Binary.value_ofWhole (positive : 0 < n) (bounded : n < 2 ^ 53) :
    ((Binary.ofWhole n).significand : ℚ) * 2 ^ (Binary.ofWhole n).exponent = n := by
  have short : n.log2 < 53 := (Nat.log2_lt positive.ne').mpr bounded
  have opposite : ((n.log2 : ℤ) - 52) = -((52 - n.log2 : ℕ) : ℤ) := by omega
  simp only [Binary.ofWhole, Nat.shiftLeft_eq, opposite, zpow_neg, zpow_natCast]
  push_cast
  field_simp

theorem Binary.IsCanonical.contains_value {b : Binary} (canonical : b.IsCanonical) :
    b.interval.Contains (b.significand * 2 ^ b.exponent) := by
  have unit_pos : (0 : ℚ) < 2 ^ b.exponent := by positivity
  rw [b.contains_interval_iff, b.cast_high, canonical.cast_low,
    mul_div_cancel_right₀ _ unit_pos.ne']
  split_ifs <;> constructor <;> linarith

/-- Rounding a number that has been scaled to a smaller last place gives the number. -/
theorem Binary.IsCanonical.round_scaled {b : Binary} (canonical : b.IsCanonical)
    (normal : 2 ^ 52 ≤ b.significand) (shift : ℕ) :
    roundWithAccuracy Format.binary64 .positive (b.significand * 2 ^ shift) (b.exponent - shift)
        .exact = .finite .positive b.significand b.exponent canonical.positive := by
  have cuts := Cuts.exact (b.significand * 2 ^ shift)
  have value : (b.significand * 2 ^ b.exponent : ℚ) / 2 ^ (b.exponent - shift) =
      (b.significand * 2 ^ shift : ℕ) := by
    rw [zpow_sub₀ two_ne_zero, zpow_natCast]
    push_cast
    field_simp
  rw [← value] at cuts
  have scaled : 2 ^ 52 ≤ b.significand * 2 ^ shift :=
    normal.trans (Nat.le_mul_of_pos_right _ (Nat.two_pow_pos shift))
  have long : 52 ≤ (b.significand * 2 ^ shift).log2 := (Nat.le_log2 (by omega)).mpr scaled
  exact canonical.roundWithAccuracy_eq canonical.contains_value cuts (.inl long)

theorem unpack_ofUInt64 (positive : 0 < n) (bounded : n < 2 ^ 53) :
    (Float.Model.ofUInt64 n.toUInt64).unpack = .finite .positive (Binary.ofWhole n).significand
      (Binary.ofWhole n).exponent (Binary.isCanonical_ofWhole positive bounded).positive := by
  have canonical := Binary.isCanonical_ofWhole positive bounded
  have normal := (Binary.significand_ofWhole positive bounded).1
  have short : n.log2 < 53 := (Nat.log2_lt positive.ne').mpr bounded
  have word : n.toUInt64.toNat = n := by
    change n % 2 ^ 64 = n
    omega
  have sign : compare (n : ℤ) 0 = .gt := Int.compare_eq_gt.mpr (by omega)
  have target : Format.binary64.targetExponent (totalExponent n 0) = (n.log2 : ℤ) - 52 := by
    rw [targetExponent_totalExponent]
    omega
  have shift : (0 - ((n.log2 : ℤ) - 52)).toNat = 52 - n.log2 := by omega
  have exponent_eq : (0 : ℤ) - (52 - n.log2 : ℕ) = n.log2 - 52 := by omega
  have shifted : UnpackedFloat.ofUInt64 Format.binary64 n.toUInt64 =
      roundWithAccuracy Format.binary64 .positive (Binary.ofWhole n).significand
        (Binary.ofWhole n).exponent .exact := by
    simp only [UnpackedFloat.ofUInt64, word, UnpackedFloat.ofNat, UnpackedFloat.ofInt,
      UnpackedFloat.normalize, sign, Int.toNat_natCast, UnpackedFloat.round, target,
      decreaseExponent, shift, exponent_eq, Binary.ofWhole]
  have rounded := canonical.round_scaled normal 0
  rw [pow_zero, mul_one, Nat.cast_zero, sub_zero] at rounded
  rw [Float.Model.ofUInt64, shifted, rounded, canonical.unpack_pack normal]

theorem unpack_ofNat (positive : 0 < n) (bounded : n < 2 ^ 53) :
    (Float.ofNat n).toModel.unpack = .finite .positive (Binary.ofWhole n).significand
      (Binary.ofWhole n).exponent (Binary.isCanonical_ofWhole positive bounded).positive := by
  have canonical := Binary.isCanonical_ofWhole positive bounded
  have normal := (Binary.significand_ofWhole positive bounded).1
  -- The number is read as a decimal without a point: it is multiplied by the power of ten that is
  -- one, and the product is rounded once more.
  have one : (Float.exactlyRepresentablePowersOfTen[0]).toModel.unpack =
      .finite .positive (2 ^ 52) (-52) (by decide) := rfl
  have scientific : Float.ofNat n =
      n.toUInt64.toFloat * Float.exactlyRepresentablePowersOfTen[0] :=
    dif_pos ⟨bounded, by decide⟩
  have product : (Float.ofNat n).toModel = .pack (UnpackedFloat.mul Format.binary64
      (Float.Model.ofUInt64 n.toUInt64).unpack
      (Float.exactlyRepresentablePowersOfTen[0]).toModel.unpack) := by
    rw [scientific]
    rfl
  rw [product, unpack_ofUInt64 positive bounded, one]
  have rounded := canonical.round_scaled normal 52
  have multiplied : UnpackedFloat.mul Format.binary64
      (.finite .positive (Binary.ofWhole n).significand (Binary.ofWhole n).exponent
        canonical.positive) (.finite .positive (2 ^ 52) (-52) (by decide)) =
      .finite .positive (Binary.ofWhole n).significand (Binary.ofWhole n).exponent
        canonical.positive := rounded
  rw [multiplied, canonical.unpack_pack normal]

end Whole

end WindowPlacement.Decimal

namespace WindowPlacement

open Float.Model Float.Model.UnpackedFloat Decimal

/-- A whole number of at most 53 bits keeps its value when it is taken as a number. -/
theorem unpack_ofInt {n : ℤ} (nonzero : n ≠ 0) (bounded : n.natAbs < 2 ^ 53) :
    ∃ sign significand exponent, ∃ positive,
      (Float.ofInt n).toModel.unpack = .finite sign significand exponent positive ∧
        rationalOf sign significand exponent = n := by
  cases n with
  | ofNat magnitude =>
    have positive : 0 < magnitude := by simpa [Nat.pos_iff_ne_zero] using nonzero
    have value := Binary.value_ofWhole positive bounded
    refine ⟨.positive, _, _, _, unpack_ofNat positive bounded, ?_⟩
    simpa [rationalOf, Sign.apply] using value
  | negSucc magnitude =>
    have positive : 0 < magnitude + 1 := magnitude.succ_pos
    have canonical := Binary.isCanonical_ofWhole positive bounded
    have normal := (Binary.significand_ofWhole positive bounded).1
    have value := Binary.value_ofWhole positive bounded
    have negated : (Float.ofInt (.negSucc magnitude)).toModel =
        .pack (Float.ofNat (magnitude + 1)).toModel.unpack.neg := rfl
    refine ⟨.negative, _, (Binary.ofWhole (magnitude + 1)).exponent, canonical.positive, ?_, ?_⟩
    · rw [negated, unpack_ofNat positive bounded]
      exact canonical.unpack_pack normal .negative
    · rw [rationalOf, Sign.apply, Int.cast_neg, Int.cast_natCast, neg_mul, Int.cast_negSucc,
        neg_inj]
      exact value

theorem rational?_ofInt {n : ℤ} (bounded : n.natAbs ≤ 2 ^ 53) :
    rational? (Float.ofInt n) = some (n : ℚ) := by
  have zero_unpacked : (Float.ofInt 0).toModel.unpack = .zero .positive := rfl
  have greatest_unpacked : (Float.ofInt 9007199254740992).toModel.unpack =
      .finite .positive (2 ^ 52) 1 (by decide) := rfl
  have least_unpacked : (Float.ofInt (-9007199254740992)).toModel.unpack =
      .finite .negative (2 ^ 52) 1 (by decide) := rfl
  rcases bounded.lt_or_eq with less | outermost
  · by_cases zero : n = 0
    · rw [zero, rational?, zero_unpacked, rationalIn, Int.cast_zero]
    · obtain ⟨sign, significand, exponent, positive, unpacked, value⟩ := unpack_ofInt zero less
      rw [rational?, unpacked, rationalIn, value]
  · rcases (by omega : n = 9007199254740992 ∨ n = -9007199254740992) with rfl | rfl
    · rw [rational?, greatest_unpacked, rationalIn, rationalOf_positive]
      norm_num
    · rw [rational?, least_unpacked, rationalIn, rationalOf_negative]
      norm_num

theorem coordinateOf_ofInt {n : ℤ} (inRange : IsCoordinate n) :
    coordinateOf (Float.ofInt n) = n := by
  obtain ⟨low, high⟩ := inRange
  have bounded : n.natAbs ≤ 2 ^ 53 := by
    simp only [leastCoordinate, greatestCoordinate] at low high
    omega
  rw [coordinateOf_of_rational? (rational?_ofInt bounded), saturate_eq_self low high]

end WindowPlacement
