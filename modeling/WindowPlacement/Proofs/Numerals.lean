import Mathlib.Data.List.TakeWhile
import WindowPlacement.Expression.Render
import WindowPlacement.Expression.Token
import WindowPlacement.Proofs.Nearest
import WindowPlacement.Proofs.Shortest

/-!
# The numerals of numbers read back

The text of a finite number without a sign is digits with an optional fraction, and reading
it gives the number back, bit by bit.  With the numeral for infinity this covers all numbers
that reading can give.
-/

namespace WindowPlacement.Decimal

theorem naturalOfDigits_eq (digits : List Char) :
    naturalOfDigits digits = Nat.ofDigitChars 10 digits 0 :=
  Nat.ofDigitChars_eq_foldl.symm

theorem isDigit_of_mem_replicate {count : ℕ} {c : Char} (member : c ∈ List.replicate count '0') :
    c.isDigit = true := by
  rw [List.eq_of_mem_replicate member]
  rfl

theorem Digits.positional_of_whole {d : Digits} (whole : 0 ≤ d.exponent) :
    d.positional ≠ [] ∧ (∀ c ∈ d.positional, c.isDigit = true) ∧
      naturalOfDigits d.positional = d.digits * 10 ^ d.exponent.toNat := by
  rw [Digits.positional, if_pos whole]
  refine ⟨?_, ?_, ?_⟩
  · simp [Nat.toDigits_ne_nil]
  · intro c member
    rcases List.mem_append.mp member with figure | zero
    · exact Nat.isDigit_of_mem_toDigits (by decide) (by decide) figure
    · exact isDigit_of_mem_replicate zero
  · rw [naturalOfDigits_eq, Nat.ofDigitChars_append, Nat.ofDigitChars_replicate_zero,
      Nat.ofDigitChars_ten_toDigits, Nat.mul_comm]

theorem Digits.positional_of_fraction {d : Digits} (fractional : d.exponent < 0) :
    ∃ whole fraction, d.positional = whole ++ '.' :: fraction ∧ whole ≠ [] ∧
      (∀ c ∈ whole, c.isDigit = true) ∧ (∀ c ∈ fraction, c.isDigit = true) ∧
        fraction.length = (-d.exponent).toNat ∧
          naturalOfDigits (whole ++ fraction) = d.digits := by
  have not_whole : ¬0 ≤ d.exponent := by omega
  rw [Digits.positional, if_neg not_whole]
  dsimp only
  generalize (-d.exponent).toNat = places
  set padded := List.replicate (places + 1 - (Nat.toDigits 10 d.digits).length) '0' ++
    Nat.toDigits 10 d.digits with padded_def
  have all_digits : ∀ c ∈ padded, c.isDigit = true := by
    intro c member
    rcases List.mem_append.mp member with zero | figure
    · exact isDigit_of_mem_replicate zero
    · exact Nat.isDigit_of_mem_toDigits (by decide) (by decide) figure
  have long : places < padded.length := by
    rw [padded_def, List.length_append, List.length_replicate]
    omega
  refine ⟨padded.take (padded.length - places), padded.drop (padded.length - places), rfl,
    ?_, ?_, ?_, ?_, ?_⟩
  · intro empty
    have length_eq := congrArg List.length empty
    rw [List.length_take, List.length_nil] at length_eq
    omega
  · exact fun c member => all_digits c (List.mem_of_mem_take member)
  · exact fun c member => all_digits c (List.mem_of_mem_drop member)
  · rw [List.length_drop]
    omega
  · rw [List.take_append_drop, naturalOfDigits_eq, padded_def, Nat.ofDigitChars_append,
      Nat.ofDigitChars_replicate_zero, Nat.mul_zero, Nat.ofDigitChars_ten_toDigits]

theorem value?_of_digits {digits : List Char} (nonempty : digits ≠ [])
    (all_digits : ∀ c ∈ digits, c.isDigit = true) :
    value? digits = some (nearest (naturalOfDigits digits) 0) := by
  have taken : digits.takeWhile Char.isDigit = digits := List.takeWhile_eq_self_iff.mpr all_digits
  have dropped : digits.dropWhile Char.isDigit = [] := List.dropWhile_eq_nil_iff.mpr all_digits
  simp [value?, taken, dropped, nonempty, exponent?]

theorem value?_of_fraction {whole fraction : List Char} (nonempty : whole ≠ [])
    (whole_digits : ∀ c ∈ whole, c.isDigit = true)
    (fraction_digits : ∀ c ∈ fraction, c.isDigit = true) :
    value? (whole ++ '.' :: fraction) =
      some (nearest (naturalOfDigits (whole ++ fraction)) (-fraction.length)) := by
  have taken : (whole ++ '.' :: fraction).takeWhile Char.isDigit = whole := by
    rw [List.takeWhile_append_of_pos whole_digits,
      List.takeWhile_cons_of_neg (by decide), List.append_nil]
  have dropped : (whole ++ '.' :: fraction).dropWhile Char.isDigit = '.' :: fraction := by
    rw [List.dropWhile_append_of_pos whole_digits, List.dropWhile_cons_of_neg (by decide)]
  have taken' : fraction.takeWhile Char.isDigit = fraction :=
    List.takeWhile_eq_self_iff.mpr fraction_digits
  have dropped' : fraction.dropWhile Char.isDigit = [] :=
    List.dropWhile_eq_nil_iff.mpr fraction_digits
  simp [value?, taken, dropped, taken', dropped', nonempty, exponent?]

/-- Writing a decimal and reading it gives the binary64 number nearest to it. -/
theorem Binary.IsCanonical.value?_positional {b : Binary} (canonical : b.IsCanonical)
    {d : Digits} (caught : b.interval.Contains (d.digits * 10 ^ d.exponent)) :
    value? d.positional = some (Float.ofModel (.pack
      (.finite .positive b.significand b.exponent canonical.positive))) := by
  rcases lt_or_ge d.exponent 0 with fractional | whole
  · obtain ⟨whole, fraction, written, nonempty, whole_digits, fraction_digits, places, spelled⟩ :=
      Digits.positional_of_fraction fractional
    have exponent_eq : -(fraction.length : ℤ) = d.exponent := by omega
    rw [written, value?_of_fraction nonempty whole_digits fraction_digits, spelled, exponent_eq,
      canonical.nearest_eq caught]
  · obtain ⟨nonempty, all_digits, spelled⟩ := Digits.positional_of_whole whole
    have value_eq : (d.digits * 10 ^ d.exponent : ℚ) =
        ((d.digits * 10 ^ d.exponent.toNat : ℕ) : ℚ) * 10 ^ (0 : ℤ) := by
      obtain ⟨count, count_eq⟩ := Int.eq_ofNat_of_zero_le whole
      rw [count_eq, Int.toNat_natCast, zpow_natCast, zpow_zero, mul_one]
      push_cast
      rfl
    rw [value_eq] at caught
    rw [value?_of_digits nonempty all_digits, spelled, canonical.nearest_eq caught]

theorem text_of_finite {value : Float} (finite : value.toBits.toNat < infinityBits) :
    text value = if value.toBits.toNat = 0 then ['0']
      else (Binary.ofMagnitudeBits value.toBits.toNat).shortest.positional := by
  have no_sign : ¬(2 ^ 63 ≤ value.toBits.toNat ∧
      value.toBits.toNat % 2 ^ 63 ≤ infinityBits) := by
    rw [infinityBits_eq] at finite ⊢
    omega
  have magnitude : value.toBits.toNat % 2 ^ 63 = value.toBits.toNat := by
    rw [infinityBits_eq] at finite
    omega
  rw [text, Nat.pow_eq, if_neg no_sign, magnitude, magnitudeText, if_pos finite]

/-- The text of a finite number without a sign reads back as the number. -/
theorem value?_text {value : Float} (finite : value.toBits.toNat < infinityBits) :
    value? (text value) = some value := by
  rw [text_of_finite finite]
  split_ifs with zero
  · refine congrArg some (eq_of_toNat_toBits_eq ?_)
    rw [zero]
    rfl
  · have positive := Nat.pos_of_ne_zero zero
    have canonical := isCanonical_ofMagnitudeBits positive finite
    rw [canonical.value?_positional canonical.contains_shortest]
    refine congrArg some (eq_of_toNat_toBits_eq ?_)
    rw [toNat_toBits_pack, toNat_pack_ofMagnitudeBits positive finite]

/-- A number without a sign: its sign bit is clear, and it is a number. -/
def IsUnsigned (value : Float) : Prop :=
  value.toBits.toNat < 2 ^ 63 ∧ value.isNaN = false

section Classification

open Float.Model Float.Model.UnpackedFloat

theorem toNat_unpackExponent (bits : BitVec Format.binary64.numBits) :
    (unpackExponent bits).toNat = bits.toNat / 2 ^ 52 % 2 ^ 11 := by
  unfold unpackExponent
  rw [BitVec.toNat_cast, BitVec.extractLsb_toNat, Nat.shiftRight_eq_div_pow]
  rfl

theorem toNat_unpackMantissa (bits : BitVec Format.binary64.numBits) :
    (unpackMantissa bits).toNat = bits.toNat % 2 ^ 52 := by
  unfold unpackMantissa
  rw [BitVec.toNat_cast, BitVec.extractLsb_toNat, Nat.shiftRight_zero]
  rfl

/-- What a number is, from the exponent and the fraction among its bits. -/
theorem isInf_and_isNaN (value : Float) :
    (value.isInf = true ↔ value.toBits.toNat / 2 ^ 52 % 2 ^ 11 = 2047 ∧
      value.toBits.toNat % 2 ^ 52 = 0) ∧
    (value.isNaN = true ↔ value.toBits.toNat / 2 ^ 52 % 2 ^ 11 = 2047 ∧
      value.toBits.toNat % 2 ^ 52 ≠ 0) := by
  have exponent_iff : ∀ bits : BitVec Format.binary64.numBits,
      (unpackExponent bits = (-1#_)) ↔ bits.toNat / 2 ^ 52 % 2 ^ 11 = 2047 := by
    intro bits
    rw [← BitVec.toNat_inj, toNat_unpackExponent]
    rfl
  have mantissa_iff : ∀ bits : BitVec Format.binary64.numBits,
      unpackMantissa bits = 0#_ ↔ bits.toNat % 2 ^ 52 = 0 := by
    intro bits
    rw [← BitVec.toNat_inj, toNat_unpackMantissa]
    rfl
  have bits_eq : value.toBits.toNat = value.toModel.toBits.toBitVec.toNat := rfl
  rw [bits_eq, ← exponent_iff, ← mantissa_iff]
  unfold Float.isInf Float.isNaN Float.Model.isInf Float.Model.isNaN Float.Model.unpack
    UnpackedFloat.unpack
  dsimp only
  split_ifs <;> simp_all [UnpackedFloat.isInf, UnpackedFloat.isNaN]

/-- The numbers without a sign are those with the bits up to infinity. -/
theorem isUnsigned_iff {value : Float} :
    IsUnsigned value ↔ value.toBits.toNat ≤ infinityBits := by
  have classified := (isInf_and_isNaN value).2
  unfold IsUnsigned
  rw [← Bool.not_eq_true, classified, infinityBits_eq]
  omega

/-- Infinity and the finite numbers are all that there is without a sign. -/
theorem IsUnsigned.toNat_toBits {value : Float} (unsigned : IsUnsigned value) :
    if value.isInf then value.toBits.toNat = infinityBits
    else value.toBits.toNat < infinityBits := by
  have bounded := isUnsigned_iff.mp unsigned
  have infinite := (isInf_and_isNaN value).1
  rw [infinityBits_eq] at bounded ⊢
  split_ifs with isInf
  · have exponent := infinite.mp isInf
    omega
  · have exponent := mt infinite.mpr isInf
    omega

end Classification

theorem isUnsigned_of_value? {numeral : List Char} {value : Float}
    (reads : value? numeral = some value) : IsUnsigned value := by
  unfold value? at reads
  dsimp only at reads
  split_ifs at reads
  obtain ⟨exponent, _, rfl⟩ := Option.map_eq_some_iff.mp reads
  exact isUnsigned_iff.mpr (toNat_toBits_nearest_le _ _)

end WindowPlacement.Decimal

namespace WindowPlacement.Expression

open Decimal

theorem value?_infinityNumeral : value? infinityNumeral = some (nearest 1 999) ∧
    (nearest 1 999).toBits.toNat = infinityBits := by
  constructor
  · rfl
  · decide +kernel

/-- The numeral of a number without a sign reads back as the number. -/
theorem value?_numeral {value : Float} (unsigned : IsUnsigned value) :
    value? (numeral value) = some value := by
  have bits := unsigned.toNat_toBits
  unfold numeral
  split_ifs at bits ⊢ with isInf
  · obtain ⟨reads, infinity⟩ := value?_infinityNumeral
    rw [reads]
    exact congrArg some (eq_of_toNat_toBits_eq (infinity.trans bits.symm))
  · exact value?_text bits

def IsNumeric (c : Char) : Prop :=
  c.isDigit = true ∨ c = '.' ∨ c = 'e'

theorem endsWord_eq_false_of_isNumeric {c : Char} (numeric : IsNumeric c) :
    endsWord c = false := by
  by_contra ends
  simp only [endsWord, Bool.not_eq_false, Bool.or_eq_true, beq_iff_eq] at ends
  rcases ends with ((((rfl | rfl) | rfl) | rfl) | rfl) | rfl <;> simp [IsNumeric] at numeric

theorem isBlank_eq_false_of_isNumeric {c : Char} (numeric : IsNumeric c) :
    Text.isBlank c = false := by
  rcases numeric with digit | rfl | rfl
  · have bounds : 48 ≤ c.toNat ∧ c.toNat ≤ 57 := by
      rw [Char.isDigit, Bool.and_eq_true, decide_eq_true_iff, decide_eq_true_iff] at digit
      exact digit
    simp only [Text.isBlank, Bool.or_eq_false_iff, Bool.and_eq_false_iff, decide_eq_false_iff_not,
      beq_eq_false_iff_ne]
    omega
  · rfl
  · rfl

theorem positional_numeric (d : Digits) : d.positional.head?.any Char.isDigit = true ∧
    ∀ c ∈ d.positional, IsNumeric c := by
  rcases lt_or_ge d.exponent 0 with fractional | whole
  · obtain ⟨whole, fraction, written, nonempty, whole_digits, fraction_digits, -⟩ :=
      Digits.positional_of_fraction fractional
    rw [written]
    constructor
    · obtain ⟨first, letters, rfl⟩ := List.exists_cons_of_ne_nil nonempty
      simpa using whole_digits first (by simp)
    · intro c member
      rcases List.mem_append.mp member with digit | behind
      · exact .inl (whole_digits c digit)
      · rcases List.mem_cons.mp behind with rfl | digit
        · exact .inr (.inl rfl)
        · exact .inl (fraction_digits c digit)
  · obtain ⟨nonempty, all_digits, -⟩ := Digits.positional_of_whole whole
    constructor
    · obtain ⟨first, letters, written⟩ := List.exists_cons_of_ne_nil nonempty
      rw [written] at all_digits ⊢
      simpa using all_digits first (by simp)
    · exact fun c member => .inl (all_digits c member)

/-- The numeral of a number without a sign starts with a digit and goes on with numeric
characters. -/
theorem numeral_numeric {value : Float} (unsigned : IsUnsigned value) :
    (numeral value).head?.any Char.isDigit = true ∧ ∀ c ∈ numeral value, IsNumeric c := by
  have bits := unsigned.toNat_toBits
  unfold numeral
  split_ifs at bits ⊢ with isInf
  · simp [infinityNumeral, IsNumeric]
  · rw [text_of_finite bits]
    split_ifs
    · simp [IsNumeric]
    · exact positional_numeric _

end WindowPlacement.Expression
