import WindowPlacement.Decimal.Positional
import WindowPlacement.Decimal.Reading
import WindowPlacement.Proofs.Rounding

/-!
# Reading decimals as binary64 numbers

`nearest` takes a decimal that lies in the interval of a binary64 number to that number, and
the bits of the number are those that its significand and exponent were taken from.
No decimal is taken to a number with a sign or to no number at all.
-/

namespace WindowPlacement.Decimal

open Float.Model Float.Model.UnpackedFloat

section Bits

theorem eq_of_toNat_toBits_eq {v w : Float} (same : v.toBits.toNat = w.toBits.toNat) : v = w := by
  obtain ⟨⟨bits, valid⟩⟩ := v
  obtain ⟨⟨bits', valid'⟩⟩ := w
  obtain rfl : bits = bits' := UInt64.toNat_inj.mp same
  rfl

theorem toNat_toBits_pack (u : UnpackedFloat) :
    (Float.ofModel (.pack u)).toBits.toNat = (UnpackedFloat.pack Format.binary64 u).toNat :=
  rfl

theorem toNat_packComponents (exponent : BitVec 11) (mantissa : BitVec 52) :
    (packComponents Format.binary64 .positive exponent mantissa).toNat =
      exponent.toNat * 2 ^ 52 + mantissa.toNat := by
  unfold packComponents
  rw [BitVec.toNat_append, BitVec.toNat_append]
  simp only [Sign.toBitVec, BitVec.toNat_ofNat, Nat.zero_mod, Nat.zero_shiftLeft, Nat.zero_or]
  rw [← Nat.shiftLeft_add_eq_or_of_lt mantissa.isLt, Nat.shiftLeft_eq]

theorem toNat_pack_finite {mantissa : ℕ} {exponent : ℤ} (positive : 0 < mantissa) :
    (UnpackedFloat.pack Format.binary64 (.finite .positive mantissa exponent positive)).toNat =
      if 972 ≤ exponent then infinityBits
      else if mantissa.log2 = 52 then
        (exponent + 1075).toNat % 2 ^ 11 * 2 ^ 52 + mantissa % 2 ^ 52
      else mantissa % 2 ^ 52 := by
  have biased : (exponent + (Format.binary64.exponentBias : ℕ) +
      (Format.binary64.mantissaBitsWithoutImplicit : ℕ)).toNat = (exponent + 1075).toNat := by
    simp only [Format.exponentBias]
    omega
  have overflow : 2 ^ Format.binary64.exponentBits ≤ (exponent + 1075).toNat + 1 ↔
      972 ≤ exponent := by
    dsimp only
    omega
  have full : mantissa.log2 + 1 = Format.binary64.mantissaBits ↔ mantissa.log2 = 52 := by
    simp only [Format.mantissaBits]
    omega
  unfold UnpackedFloat.pack
  simp only [biased, overflow, full]
  split_ifs
  · rfl
  · rw [toNat_packComponents, BitVec.toNat_ofNat, BitVec.toNat_ofNat]
  · rw [toNat_packComponents, BitVec.toNat_ofNat]
    simp

theorem infinityBits_eq : infinityBits = 2047 * 2 ^ 52 :=
  rfl

theorem ofMagnitudeBits_of_subnormal {bits : ℕ} (subnormal : bits < 2 ^ 52) :
    Binary.ofMagnitudeBits bits = ⟨bits, -1074⟩ := by
  have biased : bits / 2 ^ 52 = 0 := Nat.div_eq_of_lt subnormal
  rw [Binary.ofMagnitudeBits, Nat.pow_eq, if_pos biased, Nat.mod_eq_of_lt subnormal]

theorem ofMagnitudeBits_of_normal {bits : ℕ} (normal : 2 ^ 52 ≤ bits) :
    Binary.ofMagnitudeBits bits =
      ⟨2 ^ 52 + bits % 2 ^ 52, ((bits / 2 ^ 52 : ℕ) : ℤ) - 1075⟩ := by
  have biased : bits / 2 ^ 52 ≠ 0 := by omega
  exact if_neg biased

/-- Bits between those of zero and of infinity are those of a finite positive number. -/
theorem isCanonical_ofMagnitudeBits {bits : ℕ} (positive : 0 < bits)
    (finite : bits < infinityBits) : (Binary.ofMagnitudeBits bits).IsCanonical := by
  rw [infinityBits_eq] at finite
  rcases Nat.lt_or_ge bits (2 ^ 52) with subnormal | normal
  · rw [ofMagnitudeBits_of_subnormal subnormal]
    constructor <;> dsimp only <;> omega
  · rw [ofMagnitudeBits_of_normal normal]
    constructor <;> dsimp only <;> omega

theorem toNat_pack_ofMagnitudeBits {bits : ℕ} (positive : 0 < bits)
    (finite : bits < infinityBits) (nonzero : 0 < (Binary.ofMagnitudeBits bits).significand) :
    (UnpackedFloat.pack Format.binary64 (.finite .positive
      (Binary.ofMagnitudeBits bits).significand (Binary.ofMagnitudeBits bits).exponent
        nonzero)).toNat = bits := by
  have canonical := isCanonical_ofMagnitudeBits positive finite
  rw [infinityBits_eq] at finite
  rw [toNat_pack_finite]
  rcases Nat.lt_or_ge bits (2 ^ 52) with subnormal | normal
  · have short : bits.log2 < 52 := (Nat.log2_lt positive.ne').mpr subnormal
    rw [ofMagnitudeBits_of_subnormal subnormal, if_neg (by norm_num), if_neg short.ne,
      Nat.mod_eq_of_lt subnormal]
  · have full := canonical.log2_of_normal (by rw [ofMagnitudeBits_of_normal normal]; simp)
    rw [if_pos full, ofMagnitudeBits_of_normal normal]
    dsimp only
    rw [if_neg (by omega)]
    omega

end Bits

namespace Binary.IsCanonical

variable {b : Binary} {x : ℚ}

/-- Rationals that round to a finite positive number are neither too small nor too large. -/
theorem bounds_of_contains (canonical : b.IsCanonical) (caught : b.interval.Contains x) :
    (2 : ℚ) ^ (-1075 : ℤ) ≤ x ∧ x < 2 ^ (1024 : ℤ) := by
  have near := canonical.attracts caught
  have unit_pos : (0 : ℚ) < 2 ^ b.exponent := by positivity
  have least : (1 : ℚ) ≤ b.significand := by exact_mod_cast canonical.positive
  have greatest : (b.significand : ℚ) + 1 ≤ 2 ^ 53 := by exact_mod_cast canonical.bounded
  constructor
  · calc (2 : ℚ) ^ (-1075 : ℤ) = 1 / 2 * 2 ^ (-1074 : ℤ) := by
          rw [show (-1075 : ℤ) = -1 + -1074 from rfl, zpow_add₀ two_ne_zero]
          norm_num
      _ ≤ 1 / 2 * 2 ^ b.exponent := by
          have unit_ge := zpow_le_zpow_right₀ (one_le_two : (1 : ℚ) ≤ 2) canonical.lowest
          linarith
      _ ≤ x := by
          rw [← le_div_iff₀ unit_pos]
          linarith [near.low]
  · calc x < 2 ^ 53 * 2 ^ b.exponent := by
          rw [← div_lt_iff₀ unit_pos]
          linarith [near.high]
      _ ≤ 2 ^ 53 * 2 ^ (971 : ℤ) := by
          have unit_le := zpow_le_zpow_right₀ (one_le_two : (1 : ℚ) ≤ 2) canonical.highest
          linarith
      _ = 2 ^ (1024 : ℤ) := by
          rw [show (1024 : ℤ) = (53 : ℕ) + 971 from rfl, zpow_add₀ two_ne_zero, zpow_natCast]

end Binary.IsCanonical

/-- Dividing whole numbers leaves a significand that is cut off their quotient, and enough of
it to round. -/
theorem divCore_cuts {m n : ℕ} (m_pos : 0 < m) (n_pos : 0 < n) :
    ∃ (mantissa : ℕ) (exponent : ℤ) (accuracy : Accuracy),
      divCore Format.binary64 m 0 n 0 = (mantissa, exponent, accuracy) ∧
        Cuts (.ofMantissaAndAccuracy mantissa accuracy) (m / n / 2 ^ exponent) ∧
          (52 ≤ mantissa.log2 ∨ exponent ≤ -1074) := by
  have target : Format.binary64.targetExponent (totalExponent m 0 - totalExponent n 0) =
      max (m.log2 - n.log2 - 53 : ℤ) (-1074) := by
    simp only [Format.targetExponent, totalExponent, Format.mantissaBits, Format.minExponent]
    norm_num
  obtain ⟨shift, shift_eq⟩ : ∃ shift : ℕ,
      min (0 - 0 : ℤ) (max (m.log2 - n.log2 - 53 : ℤ) (-1074)) = -shift :=
    ⟨(-min (0 - 0 : ℤ) (max (m.log2 - n.log2 - 53 : ℤ) (-1074))).toNat, by omega⟩
  have shift_toNat : (0 - 0 - -(shift : ℤ)).toNat = shift := by omega
  refine ⟨(m <<< shift) / n, -shift, accuracyOfFraction ((m <<< shift) % n) n, ?_, ?_, ?_⟩
  · rw [divCore, target, shift_eq, shift_toNat]
  · have quotient : (m / n / 2 ^ (-(shift : ℤ)) : ℚ) =
        ((m <<< shift) / n : ℕ) + ((m <<< shift) % n : ℕ) / n := by
      have split : ((m * 2 ^ shift : ℕ) : ℚ) =
          n * ((m <<< shift) / n : ℕ) + ((m <<< shift) % n : ℕ) := by
        rw [← Nat.shiftLeft_eq]
        exact_mod_cast (Nat.div_add_mod (m <<< shift) n).symm
      have n_ne : (n : ℚ) ≠ 0 := by exact_mod_cast n_pos.ne'
      push_cast at split
      rw [zpow_neg, zpow_natCast, div_inv_eq_mul, div_mul_eq_mul_div, split]
      field_simp
    rw [quotient]
    exact .ofFraction _ (Nat.mod_lt _ n_pos)
  · by_cases deep : (shift : ℤ) ≥ 1074
    · right
      omega
    left
    have enough : n.log2 + 53 ≤ m.log2 + shift := by omega
    have quotient_ge : 2 ^ 52 ≤ (m <<< shift) / n := by
      rw [Nat.le_div_iff_mul_le n_pos, Nat.shiftLeft_eq]
      calc 2 ^ 52 * n ≤ 2 ^ 52 * 2 ^ (n.log2 + 1) :=
            Nat.mul_le_mul_left _ Nat.lt_log2_self.le
        _ = 2 ^ (n.log2 + 53) := by rw [← Nat.pow_add]; congr 1; omega
        _ ≤ 2 ^ (m.log2 + shift) := Nat.pow_le_pow_right two_pos enough
        _ = 2 ^ m.log2 * 2 ^ shift := Nat.pow_add 2 m.log2 shift
        _ ≤ m * 2 ^ shift := Nat.mul_le_mul_right _ (Nat.log2_self_le m_pos.ne')
    have quotient_ne : (m <<< shift) / n ≠ 0 := by
      have power_pos := Nat.two_pow_pos 52
      omega
    exact (Nat.le_log2 quotient_ne).mpr quotient_ge

/-- A decimal of the magnitude of binary64 numbers has no exponent so large or so small that
reading would give up on it. -/
theorem exponent_bounds {digits : ℕ} {exponent : ℤ} (nonzero : digits ≠ 0)
    (least : (2 : ℚ) ^ (-1075 : ℤ) ≤ digits * 10 ^ exponent)
    (greatest : digits * 10 ^ exponent < (2 : ℚ) ^ (1024 : ℤ)) :
    exponent < 1024 ∧ -1076 - (digits.log2 : ℤ) < exponent := by
  have digits_ge : (1 : ℚ) ≤ digits := by exact_mod_cast Nat.pos_of_ne_zero nonzero
  have ten_pow_pos : (0 : ℚ) < 10 ^ exponent := by positivity
  constructor
  · by_contra huge
    have contradiction : (2 : ℚ) ^ (1024 : ℤ) ≤ digits * 10 ^ exponent :=
      calc (2 : ℚ) ^ (1024 : ℤ) ≤ 10 ^ (1024 : ℤ) := by
            rw [zpow_ofNat, zpow_ofNat]
            exact pow_le_pow_left₀ two_pos.le (by norm_num) _
        _ ≤ 10 ^ exponent := zpow_le_zpow_right₀ (by norm_num) (by omega)
        _ ≤ digits * 10 ^ exponent := le_mul_of_one_le_left ten_pow_pos.le digits_ge
    linarith
  · by_contra tiny
    obtain ⟨count, rfl⟩ : ∃ count : ℕ, exponent = -count := ⟨(-exponent).toNat, by omega⟩
    have digits_lt : (digits : ℚ) < 2 ^ (digits.log2 + 1) := by exact_mod_cast Nat.lt_log2_self
    have powers : (10 : ℚ) ^ (-(count : ℤ)) ≤ 2 ^ (-(count : ℤ)) := by
      rw [zpow_neg, zpow_neg, zpow_natCast, zpow_natCast]
      exact inv_anti₀ (by positivity) (pow_le_pow_left₀ two_pos.le (by norm_num) _)
    have less : (2 : ℚ) ^ (-1075 : ℤ) < 2 ^ ((digits.log2 + 1 : ℕ) + -(count : ℤ)) :=
      calc (2 : ℚ) ^ (-1075 : ℤ) ≤ digits * 10 ^ (-(count : ℤ)) := least
        _ < 2 ^ (digits.log2 + 1) * 10 ^ (-(count : ℤ)) :=
            mul_lt_mul_of_pos_right digits_lt ten_pow_pos
        _ ≤ 2 ^ (digits.log2 + 1) * 2 ^ (-(count : ℤ)) :=
            mul_le_mul_of_nonneg_left powers (by positivity)
        _ = 2 ^ ((digits.log2 + 1 : ℕ) + -(count : ℤ)) := by
            rw [zpow_add₀ two_ne_zero, zpow_natCast]
    have exponents := (zpow_lt_zpow_iff_right₀ (one_lt_two : (1 : ℚ) < 2)).mp less
    omega

/-- A whole number in the interval of a number, with room for the bits to round by, rounds to
the number. -/
theorem Binary.IsCanonical.round_whole {b : Binary} (canonical : b.IsCanonical) {n : ℕ}
    (nonzero : n ≠ 0) (factor : ℕ) (factor_pos : 0 < factor)
    (caught : b.interval.Contains (n * factor)) :
    roundWithAccuracy Format.binary64 .positive (n <<< 53 * factor) (-53 + 0) .exact =
      .finite .positive b.significand b.exponent canonical.positive := by
  have product : (n * factor : ℚ) / 2 ^ (-53 + 0 : ℤ) = (n <<< 53 * factor : ℕ) := by
    rw [Nat.shiftLeft_eq, add_zero, zpow_neg, zpow_ofNat, div_inv_eq_mul]
    push_cast
    ring
  have product_ge : 2 ^ 52 ≤ n <<< 53 * factor :=
    calc 2 ^ 52 ≤ 2 ^ 53 := by norm_num
      _ ≤ n * 2 ^ 53 := Nat.le_mul_of_pos_left _ (Nat.pos_of_ne_zero nonzero)
      _ = n <<< 53 := (Nat.shiftLeft_eq n 53).symm
      _ ≤ n <<< 53 * factor := Nat.le_mul_of_pos_right _ factor_pos
  have long : 52 ≤ (n <<< 53 * factor).log2 := (Nat.le_log2 (by omega)).mpr product_ge
  have cuts := Cuts.exact (n <<< 53 * factor)
  rw [← product] at cuts
  exact canonical.roundWithAccuracy_eq caught cuts (.inl long)

/-- A decimal in the interval of a number is read as the number. -/
theorem Binary.IsCanonical.nearest_eq {b : Binary} (canonical : b.IsCanonical) {digits : ℕ}
    {exponent : ℤ} (caught : b.interval.Contains (digits * 10 ^ exponent)) :
    nearest digits exponent = Float.ofModel (.pack
      (.finite .positive b.significand b.exponent canonical.positive)) := by
  obtain ⟨least, greatest⟩ := canonical.bounds_of_contains caught
  have nonzero : digits ≠ 0 := by
    rintro rfl
    rw [Nat.cast_zero, zero_mul] at least
    have positive : (0 : ℚ) < 2 ^ (-1075 : ℤ) := by positivity
    linarith
  obtain ⟨small, large⟩ := exponent_bounds nonzero least greatest
  have not_huge : ¬exponent > 2 ^ Format.binary64.exponentBits := by
    norm_num
    omega
  have not_tiny : ¬exponent < -((2 ^ Format.binary64.exponentBits : ℤ) + digits.log2) := by
    norm_num
    omega
  unfold nearest Float.Model.ofScientific UnpackedFloat.ofScientific
  rw [dif_neg nonzero, if_neg not_huge, if_neg not_tiny]
  split_ifs with whole
  · obtain ⟨count, rfl⟩ := Int.eq_ofNat_of_zero_le whole
    have caught_product : b.interval.Contains (digits * (10 ^ count : ℕ)) := by
      simpa using caught
    have rounded := canonical.round_whole nonzero _ (by positivity) caught_product
    exact congrArg (fun u => Float.ofModel (.pack u)) rounded
  · obtain ⟨mantissa, e, accuracy, divided, cuts, long⟩ :=
      divCore_cuts (Nat.pos_of_ne_zero nonzero) (by positivity : 0 < 10 ^ (-exponent).toNat)
    have quotient : (digits / (10 ^ (-exponent).toNat : ℕ) : ℚ) = digits * 10 ^ exponent := by
      obtain ⟨count, rfl⟩ : ∃ count : ℕ, exponent = -count := ⟨(-exponent).toNat, by omega⟩
      rw [neg_neg, Int.toNat_natCast, zpow_neg, zpow_natCast, Nat.cast_pow, div_eq_mul_inv,
        Nat.cast_ofNat]
    rw [quotient] at cuts
    have rounded := canonical.roundWithAccuracy_eq caught cuts long
    simp only [UnpackedFloat.div, divided]
    exact congrArg (fun u => Float.ofModel (.pack u)) rounded

def HasPositiveSign : UnpackedFloat → Prop
  | .infinity sign | .zero sign | .finite sign _ _ _ => sign = .positive
  | .notANumber => False

theorem hasPositiveSign_roundWithAccuracy (mantissa : ℕ) (exponent : ℤ) (accuracy : Accuracy) :
    HasPositiveSign (roundWithAccuracy Format.binary64 .positive mantissa exponent accuracy) := by
  unfold roundWithAccuracy
  dsimp only
  split_ifs <;> rfl

theorem hasPositiveSign_ofScientific (digits : ℕ) (exponent : ℤ) :
    HasPositiveSign (UnpackedFloat.ofScientific Format.binary64 digits exponent) := by
  unfold UnpackedFloat.ofScientific
  split_ifs
  · rfl
  · rfl
  · rfl
  · exact hasPositiveSign_roundWithAccuracy _ _ _
  · exact hasPositiveSign_roundWithAccuracy _ _ _

theorem HasPositiveSign.toNat_pack_le {u : UnpackedFloat} (positive : HasPositiveSign u) :
    (UnpackedFloat.pack Format.binary64 u).toNat ≤ infinityBits := by
  cases u with
  | notANumber => exact positive.elim
  | infinity sign =>
    obtain rfl : sign = .positive := positive
    exact Nat.le_refl _
  | zero sign =>
    obtain rfl : sign = .positive := positive
    exact Nat.zero_le _
  | finite sign mantissa exponent nonzero =>
    obtain rfl : sign = .positive := positive
    rw [toNat_pack_finite]
    rw [infinityBits_eq]
    split_ifs <;> omega

/-- A decimal is never read as a number with a sign, nor as no number at all. -/
theorem toNat_toBits_nearest_le (digits : ℕ) (exponent : ℤ) :
    (nearest digits exponent).toBits.toNat ≤ infinityBits :=
  (hasPositiveSign_ofScientific digits exponent).toNat_pack_le

end WindowPlacement.Decimal
