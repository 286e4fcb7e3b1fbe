import WindowPlacement.Proofs.Rounding

/-!
# The parts of binary64 numbers

Among the bits of a number are its sign, an exponent and a fraction, and they are all that there is
to the number: what they are unpacked to determines it.  A finite number has a significand of all
bits, unless its exponent is the lowest one.
-/

namespace WindowPlacement.Decimal

open Float.Model Float.Model.UnpackedFloat

theorem toBitVec_ofBitVec (bit : BitVec 1) : (Sign.ofBitVec bit).toBitVec = bit := by
  revert bit
  decide

section Packing

theorem Binary.IsCanonical.pack_of_normal {b : Binary} (canonical : b.IsCanonical)
    (normal : 2 ^ 52 ≤ b.significand) (sign : Sign) :
    UnpackedFloat.pack Format.binary64
        (.finite sign b.significand b.exponent canonical.positive) =
      packComponents Format.binary64 sign (BitVec.ofNat 11 (b.exponent + 1075).toNat)
        (BitVec.ofNat 52 b.significand) := by
  have lowest := canonical.lowest
  have highest := canonical.highest
  have biased : (b.exponent + (Format.binary64.exponentBias : ℕ) +
      (Format.binary64.mantissaBitsWithoutImplicit : ℕ)).toNat = (b.exponent + 1075).toNat := by
    simp only [Format.exponentBias]
    omega
  have full : b.significand.log2 + 1 = Format.binary64.mantissaBits := by
    rw [canonical.log2_of_normal normal]
    rfl
  simp only [UnpackedFloat.pack, biased]
  rw [if_neg (by omega), if_pos full]

theorem pack_of_tiny {significand : ℕ} (positive : 0 < significand) (tiny : significand < 2 ^ 52)
    (sign : Sign) :
    UnpackedFloat.pack Format.binary64 (.finite sign significand (-1074) positive) =
      packComponents Format.binary64 sign 0#11 (BitVec.ofNat 52 significand) := by
  have biased : (-1074 + (Format.binary64.exponentBias : ℕ) +
      (Format.binary64.mantissaBitsWithoutImplicit : ℕ) : ℤ).toNat = 1 := rfl
  have short : significand.log2 < 52 := (Nat.log2_lt positive.ne').mpr tiny
  have not_full : ¬significand.log2 + 1 = Format.binary64.mantissaBits := by
    simp only [Format.mantissaBits]
    omega
  simp only [UnpackedFloat.pack, biased]
  rw [if_neg (by decide), if_neg not_full]

end Packing

section Unpacking

variable {bits : BitVec Format.binary64.numBits} {sign : Sign} {significand : ℕ} {exponent : ℤ}
  {positive : 0 < significand}

/-- The three parts of the bits of a number make up the bits. -/
theorem packComponents_of_parts {exponent : BitVec 11} {fraction : BitVec 52}
    (exponent_eq : unpackExponent bits = exponent) (fraction_eq : unpackMantissa bits = fraction) :
    packComponents Format.binary64 (Sign.ofBitVec (unpackSign bits)) exponent fraction = bits := by
  subst exponent_eq fraction_eq
  simp only [packComponents, toBitVec_ofBitVec, unpackSign, unpackExponent, unpackMantissa,
    BitVec.extractLsb]
  ext i hi
  grind

/-- The significand of a finite number is the fraction among its bits, with a leading one unless
the exponent is the lowest one. -/
theorem parts_of_unpack (unpacked : UnpackedFloat.unpack Format.binary64 bits =
    .finite sign significand exponent positive) :
    sign = Sign.ofBitVec (unpackSign bits) ∧
      ((unpackExponent bits = 0#11 ∧ significand = (unpackMantissa bits).toNat ∧
          exponent = -1074) ∨
        ((0 < (unpackExponent bits).toNat ∧ (unpackExponent bits).toNat < 2047) ∧
          significand = 2 ^ 52 + (unpackMantissa bits).toNat ∧
          exponent = (unpackExponent bits).toNat - 1075)) := by
  have bias : (Format.binary64.exponentBias : ℤ) = 1023 := rfl
  have exponent_lt : (unpackExponent bits).toNat < 2048 := (unpackExponent bits).isLt
  unfold UnpackedFloat.unpack at unpacked
  dsimp only at unpacked
  split_ifs at unpacked with special infinite tiny zero
  · obtain ⟨rfl, rfl, rfl⟩ := UnpackedFloat.finite.inj unpacked
    refine ⟨rfl, .inl ⟨tiny, rfl, ?_⟩⟩
    rw [tiny, bias]
    rfl
  · obtain ⟨rfl, rfl, rfl⟩ := UnpackedFloat.finite.inj unpacked
    have not_special : (unpackExponent bits).toNat ≠ 2047 := fun reached =>
      special (BitVec.eq_of_toNat_eq reached)
    have not_tiny : (unpackExponent bits).toNat ≠ 0 := fun reached =>
      tiny (BitVec.eq_of_toNat_eq reached)
    refine ⟨rfl, .inr ⟨⟨?_, ?_⟩, ?_, ?_⟩⟩
    · omega
    · omega
    · rw [BitVec.toNat_append, ← Nat.shiftLeft_add_eq_or_of_lt (unpackMantissa bits).isLt,
        Nat.shiftLeft_eq, BitVec.toNat_ofNat]
      rfl
    · rw [bias]
      omega

theorem isCanonical_of_unpack (unpacked : UnpackedFloat.unpack Format.binary64 bits =
    .finite sign significand exponent positive) :
    Binary.IsCanonical ⟨significand, exponent⟩ := by
  have fraction_lt : (unpackMantissa bits).toNat < 2 ^ 52 := (unpackMantissa bits).isLt
  obtain ⟨-, ⟨-, rfl, rfl⟩ | ⟨⟨least, greatest⟩, rfl, rfl⟩⟩ := parts_of_unpack unpacked
  · constructor <;> dsimp only <;> omega
  · constructor <;> dsimp only <;> omega

/-- A number is found again in what it is unpacked to. -/
theorem pack_unpack (valid : Format.binary64.Valid bits) :
    UnpackedFloat.pack Format.binary64 (UnpackedFloat.unpack Format.binary64 bits) = bits := by
  cases unpacked : UnpackedFloat.unpack Format.binary64 bits with
  | finite sign significand exponent positive =>
    have canonical := isCanonical_of_unpack unpacked
    have fraction_lt : (unpackMantissa bits).toNat < 2 ^ 52 := (unpackMantissa bits).isLt
    obtain ⟨rfl, ⟨tiny, rfl, rfl⟩ | ⟨⟨least, greatest⟩, rfl, rfl⟩⟩ := parts_of_unpack unpacked
    · rw [pack_of_tiny positive fraction_lt]
      exact packComponents_of_parts tiny (BitVec.eq_of_toNat_eq (by simp))
    · have packed := canonical.pack_of_normal (Nat.le_add_right _ _) (Sign.ofBitVec (unpackSign bits))
      rw [packed]
      apply packComponents_of_parts
      · apply BitVec.eq_of_toNat_eq
        have exponent_eq : ((unpackExponent bits).toNat - 1075 + 1075 : ℤ).toNat =
            (unpackExponent bits).toNat := by omega
        rw [exponent_eq, BitVec.toNat_ofNat, Nat.mod_eq_of_lt (by omega)]
      · apply BitVec.eq_of_toNat_eq
        rw [BitVec.toNat_ofNat, Nat.add_mod_left, Nat.mod_eq_of_lt fraction_lt]
  | notANumber =>
    unfold UnpackedFloat.unpack at unpacked
    dsimp only at unpacked
    split_ifs at unpacked with special infinite
    exact (valid.eq_packedNaN special infinite).symm
  | infinity sign =>
    unfold UnpackedFloat.unpack at unpacked
    dsimp only at unpacked
    split_ifs at unpacked with special infinite
    obtain rfl := UnpackedFloat.infinity.inj unpacked
    exact packComponents_of_parts special infinite
  | zero sign =>
    unfold UnpackedFloat.unpack at unpacked
    dsimp only at unpacked
    split_ifs at unpacked with special infinite tiny zero
    obtain rfl := UnpackedFloat.zero.inj unpacked
    exact packComponents_of_parts tiny zero

end Unpacking

/-- What a number is unpacked to determines the number. -/
theorem eq_of_unpack_eq {value other : Float}
    (same : value.toModel.unpack = other.toModel.unpack) : value = other := by
  have value_bits := pack_unpack value.toModel.valid
  have other_bits := pack_unpack other.toModel.valid
  obtain ⟨⟨bits, valid⟩⟩ := value
  obtain ⟨⟨bits', valid'⟩⟩ := other
  have bits_eq : bits.toBitVec = bits'.toBitVec := by
    rw [← value_bits, ← other_bits]
    exact congrArg (UnpackedFloat.pack Format.binary64) same
  obtain rfl := UInt64.toBitVec_inj.mp bits_eq
  rfl

end WindowPlacement.Decimal
