import WindowPlacement.Placement.Target
import WindowPlacement.Proofs.Rounding

/-!
# Numbers as coordinates

A finite number counts as the whole number next to it on the side of zero, clamped to the
32-bit coordinates.  An infinity counts as the outermost coordinate on its side, and what is
no number counts as zero.
-/

namespace WindowPlacement

open Float.Model Float.Model.UnpackedFloat Decimal

def rationalOf (sign : Sign) (significand : ℕ) (exponent : ℤ) : ℚ :=
  (sign.apply significand : ℤ) * 2 ^ exponent

theorem rationalOf_positive (significand : ℕ) (exponent : ℤ) :
    rationalOf .positive significand exponent = significand * 2 ^ exponent := by
  simp [rationalOf, Sign.apply]

theorem rationalOf_negative (significand : ℕ) (exponent : ℤ) :
    rationalOf .negative significand exponent = -(significand * 2 ^ exponent) := by
  simp [rationalOf, Sign.apply]

def towardZero (x : ℚ) : ℤ :=
  if 0 ≤ x then ⌊x⌋ else ⌈x⌉

/-- The coordinate that a number counts as. -/
def truncated : UnpackedFloat → ℤ
  | .notANumber => 0
  | .infinity .positive => greatestCoordinate
  | .infinity .negative => leastCoordinate
  | .zero _ => 0
  | .finite sign significand exponent _ =>
    saturate (towardZero (rationalOf sign significand exponent))

/-- Shifting a significand to the exponent zero leaves the whole part of the number. -/
theorem mantissa_shiftToExponent_zero (significand : ℕ) (exponent : ℤ) :
    ((shiftToExponent (decreaseExponent significand exponent 0).1
      (decreaseExponent significand exponent 0).2 .exact 0).1.mantissa : ℤ) =
        ⌊(significand * 2 ^ exponent : ℚ)⌋ := by
  set up := (exponent - 0).toNat with up_def
  set down := (0 - (exponent - up)).toNat with down_def
  have cuts : Cuts (ExtendedMantissa.ofMantissaAndAccuracy (significand <<< up) .exact >>> down)
      ((significand <<< up : ℕ) / 2 ^ down) := (Cuts.exact _).shiftRight down
  have scaled : ((significand <<< up : ℕ) / 2 ^ down : ℚ) = significand * 2 ^ exponent := by
    rw [Nat.shiftLeft_eq]
    push_cast
    rcases Int.le_total 0 exponent with whole | fractional
    · obtain ⟨count, rfl⟩ := Int.eq_ofNat_of_zero_le whole
      have up_eq : up = count := by omega
      have down_eq : down = 0 := by omega
      simp [up_eq, down_eq]
    · obtain ⟨count, rfl⟩ : ∃ count : ℕ, exponent = -count := ⟨(-exponent).toNat, by omega⟩
      have up_eq : up = 0 := by omega
      have down_eq : down = count := by omega
      simp [up_eq, down_eq, div_eq_mul_inv]
  rw [scaled] at cuts
  exact (Int.floor_eq_iff.mpr ⟨by exact_mod_cast cuts.low, by exact_mod_cast cuts.high⟩).symm

theorem roundToInt_eq_towardZero (sign : Sign) {significand : ℕ} (exponent : ℤ)
    (positive : 0 < significand) :
    roundToInt sign significand exponent = towardZero (rationalOf sign significand exponent) := by
  have magnitude_pos : (0 : ℚ) < significand * 2 ^ exponent := by positivity
  have whole := mantissa_shiftToExponent_zero significand exponent
  cases sign with
  | positive =>
    rw [rationalOf_positive, towardZero, if_pos magnitude_pos.le]
    exact whole
  | negative =>
    rw [rationalOf_negative, towardZero, if_neg (by linarith), Int.ceil_neg, ← whole]
    rfl

theorem toInt_ofIntClamp_eq_saturate (n : ℤ) : (Int32.ofIntClamp n).toInt = saturate n := by
  have least : Int32.minValue.toInt = leastCoordinate := rfl
  have greatest : Int32.maxValue.toInt = greatestCoordinate := rfl
  unfold Int32.ofIntClamp
  split_ifs with low high
  · rw [Int32.toInt_ofIntLE]
    exact (saturate_eq_self low high).symm
  · rw [greatest] at high ⊢
    simp only [saturate, leastCoordinate, greatestCoordinate] at high ⊢
    omega
  · rw [least] at low ⊢
    simp only [saturate, leastCoordinate, greatestCoordinate] at low ⊢
    omega

/-- A number counts as the coordinate that is left of it without its fraction. -/
theorem coordinateOf_eq_truncated (value : Float) :
    coordinateOf value = truncated value.toModel.unpack := by
  have clamped : coordinateOf value = saturate
      (value.toModel.unpack.toInt Int32.minValue.toInt Int32.maxValue.toInt) :=
    toInt_ofIntClamp_eq_saturate _
  rw [clamped]
  cases value.toModel.unpack with
  | notANumber => rfl
  | infinity sign => cases sign <;> rfl
  | zero sign => rfl
  | finite sign significand exponent positive =>
    rw [UnpackedFloat.toInt, truncated, roundToInt_eq_towardZero sign exponent positive]

/-- The rational that a number is, if it is finite. -/
def rationalIn : UnpackedFloat → Option ℚ
  | .notANumber => none
  | .infinity _ => none
  | .zero _ => some 0
  | .finite sign significand exponent _ => some (rationalOf sign significand exponent)

def rational? (value : Float) : Option ℚ :=
  rationalIn value.toModel.unpack

theorem towardZero_intCast (n : ℤ) : towardZero n = n := by
  rw [towardZero, Int.floor_intCast, Int.ceil_intCast, ite_self]

theorem truncated_of_rationalIn {u : UnpackedFloat} {x : ℚ} (at_u : rationalIn u = some x) :
    truncated u = saturate (towardZero x) := by
  cases u with
  | notANumber => cases at_u
  | infinity sign => cases at_u
  | zero sign =>
    obtain rfl := Option.some.inj at_u
    exact congrArg saturate (towardZero_intCast 0).symm
  | finite sign significand exponent positive =>
    obtain rfl := Option.some.inj at_u
    rfl

theorem coordinateOf_of_rational? {value : Float} {n : ℤ}
    (whole : rational? value = some (n : ℚ)) : coordinateOf value = saturate n := by
  rw [coordinateOf_eq_truncated, truncated_of_rationalIn whole, towardZero_intCast]

end WindowPlacement
