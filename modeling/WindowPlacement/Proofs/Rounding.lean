import Mathlib
import WindowPlacement.Decimal.Shortest

/-!
# Rounding to binary64 numbers

Rounding starts from a significand of any length, cut off a rational number, with two bits
that tell how far the cut is from the number.  Shifting the significand keeps these two
bits right, so the number that comes out is the nearest one, of two equally near ones the
even one.  In the terms of this library: every rational in the interval of a binary64
number rounds to that number.
-/

namespace WindowPlacement.Decimal

open Float.Model Float.Model.UnpackedFloat

/-- The significand and the exponent are those of a finite positive binary64 number. -/
structure Binary.IsCanonical (b : Binary) : Prop where
  positive : 0 < b.significand
  bounded : b.significand < 2 ^ 53
  lowest : -1074 ≤ b.exponent
  highest : b.exponent ≤ 971
  normal : b.exponent = -1074 ∨ 2 ^ 52 ≤ b.significand

def Interval.Contains (i : Interval) (x : ℚ) : Prop :=
  if i.closed then
    i.low * 2 ^ i.exponent ≤ x ∧ x ≤ i.high * 2 ^ i.exponent
  else
    i.low * 2 ^ i.exponent < x ∧ x < i.high * 2 ^ i.exponent

/-- A rational, in units of the last place of a number, that is as near to the number as
rounding takes it. -/
structure Binary.Attracts (b : Binary) (y : ℚ) : Prop where
  low : b.significand - 1 / 2 ≤ y
  high : y ≤ b.significand + 1 / 2
  odd : b.significand % 2 = 1 → b.significand - 1 / 2 < y ∧ y < b.significand + 1 / 2
  power : b.significand = 2 ^ 52 → -1074 < b.exponent → (2 : ℚ) ^ 52 - 1 / 4 ≤ y

/-- An extended significand is cut off a rational: it is the whole part, the round bit says
whether the fraction is at least a half, and the sticky bit whether there is more to the
fraction than that. -/
structure Cuts (em : ExtendedMantissa) (y : ℚ) : Prop where
  low : em.mantissa ≤ y
  high : y < em.mantissa + 1
  round : em.roundBit = true ↔ em.mantissa + 1 / 2 ≤ y
  sticky : em.stickyBit = true ↔ y ≠ em.mantissa ∧ y ≠ em.mantissa + 1 / 2

theorem mantissa_ofMantissaAndAccuracy (mantissa : ℕ) (accuracy : Accuracy) :
    (ExtendedMantissa.ofMantissaAndAccuracy mantissa accuracy).mantissa = mantissa := by
  rcases accuracy with _ | (_ | _ | _) <;> rfl

namespace Cuts

variable {em : ExtendedMantissa} {y : ℚ}

theorem exact (mantissa : ℕ) : Cuts (.ofMantissaAndAccuracy mantissa .exact) mantissa := by
  constructor <;> simp [ExtendedMantissa.ofMantissaAndAccuracy]

theorem ofFraction (mantissa : ℕ) {num den : ℕ} (proper : num < den) :
    Cuts (.ofMantissaAndAccuracy mantissa (accuracyOfFraction num den))
      (mantissa + num / den) := by
  have den_pos : (0 : ℚ) < den := by exact_mod_cast (Nat.zero_le num).trans_lt proper
  have fraction_lt : (num / den : ℚ) < 1 := by
    rw [div_lt_one den_pos]
    exact_mod_cast proper
  unfold accuracyOfFraction
  split_ifs with none
  · subst none
    simpa using exact mantissa
  have fraction_pos : (0 : ℚ) < num / den := by
    have num_pos : (0 : ℚ) < num := by exact_mod_cast Nat.pos_of_ne_zero none
    positivity
  rcases comparison : compare (2 * num) den with _ | _ | _
  · have below : (num / den : ℚ) < 1 / 2 := by
      rw [div_lt_div_iff₀ den_pos two_pos, mul_comm]
      exact_mod_cast (by simpa using Nat.compare_eq_lt.mp comparison)
    constructor <;> simp [ExtendedMantissa.ofMantissaAndAccuracy] <;> grind
  · have middle : (num / den : ℚ) = 1 / 2 := by
      rw [div_eq_div_iff den_pos.ne' two_ne_zero, mul_comm]
      exact_mod_cast (by simpa using Nat.compare_eq_eq.mp comparison)
    constructor <;> simp [ExtendedMantissa.ofMantissaAndAccuracy] <;> grind
  · have above : (1 / 2 : ℚ) < num / den := by
      rw [div_lt_div_iff₀ two_pos den_pos, mul_comm (num : ℚ)]
      exact_mod_cast (by simpa using Nat.compare_eq_gt.mp comparison)
    constructor <;> simp [ExtendedMantissa.ofMantissaAndAccuracy] <;> grind

theorem shiftRightOne (cuts : Cuts em y) : Cuts em.shiftRightOne (y / 2) := by
  have split : em.mantissa = 2 * (em.mantissa / 2) + em.mantissa % 2 := (Nat.div_add_mod _ 2).symm
  have as_rationals : (em.mantissa : ℚ) =
      2 * ((em.mantissa / 2 : ℕ) : ℚ) + ((em.mantissa % 2 : ℕ) : ℚ) := by exact_mod_cast split
  have low := cuts.low
  have high := cuts.high
  have round := cuts.round
  have sticky := cuts.sticky
  rcases Nat.mod_two_eq_zero_or_one em.mantissa with even | odd
  · rw [even, Nat.cast_zero] at as_rationals
    constructor <;> simp only [ExtendedMantissa.shiftRightOne, even]
    · linarith
    · linarith
    · constructor
      · intro impossible
        simp at impossible
      · intro reached
        linarith
    · grind
  · rw [odd, Nat.cast_one] at as_rationals
    constructor <;> simp only [ExtendedMantissa.shiftRightOne, odd]
    · linarith
    · linarith
    · constructor
      · intro _
        linarith
      · intro _
        rfl
    · grind

theorem shiftRight (cuts : Cuts em y) (count : ℕ) : Cuts (em >>> count) (y / 2 ^ count) := by
  change Cuts (count.repeat ExtendedMantissa.shiftRightOne em) _
  induction count with
  | zero => simpa [Nat.repeat] using cuts
  | succ count ih =>
    rw [pow_succ, ← div_div]
    exact ih.shiftRightOne

/-- The rounded significand is the nearest whole number, and the even one of two. -/
theorem roundedMantissa_eq (cuts : Cuts em y) {n : ℕ} (low : n - 1 / 2 ≤ y)
    (high : y ≤ n + 1 / 2) (odd : n % 2 = 1 → (n : ℚ) - 1 / 2 < y ∧ y < n + 1 / 2) :
    em.roundedMantissa = n := by
  have cut_low := cuts.low
  have cut_high := cuts.high
  have round := cuts.round
  have sticky := cuts.sticky
  obtain ⟨m, roundBit, stickyBit⟩ := em
  -- All that is needed of a distance below one between two whole numbers.
  have le_of_lt_add_one : ∀ {a b : ℕ}, (a : ℚ) < b + 1 → a ≤ b := by
    intro a b less
    exact Nat.le_of_lt_add_one (by exact_mod_cast less)
  cases roundBit <;> cases stickyBit <;>
    simp only [ExtendedMantissa.roundedMantissa, ExtendedMantissa.accuracy,
      Accuracy.roundToNearestEven] at cut_low cut_high round sticky ⊢
  · have at_cut : y = m := by grind
    have upper : m ≤ n := le_of_lt_add_one (by linarith)
    have lower : n ≤ m := le_of_lt_add_one (by linarith)
    omega
  · have above : (m : ℚ) < y := by grind
    have below : y < m + 1 / 2 := by grind
    have upper : m ≤ n := le_of_lt_add_one (by linarith)
    have lower : n ≤ m := le_of_lt_add_one (by linarith)
    omega
  · have at_half : y = m + 1 / 2 := by grind
    have upper : m ≤ n := by exact_mod_cast (by linarith : (m : ℚ) ≤ n)
    have lower : n ≤ m + 1 := by exact_mod_cast (by linarith : (n : ℚ) ≤ m + 1)
    have even : n % 2 = 0 := by
      by_contra not_even
      obtain ⟨strict_low, strict_high⟩ := odd (by omega)
      have less : m < n := by exact_mod_cast (by linarith : (m : ℚ) < n)
      have less' : n < m + 1 := by exact_mod_cast (by linarith : (n : ℚ) < m + 1)
      omega
    omega
  · have above : m + 1 / 2 < y := by grind
    have upper : m < n := by exact_mod_cast (by linarith : (m : ℚ) < n)
    have lower : n ≤ m + 1 := le_of_lt_add_one (by push_cast; linarith)
    omega

end Cuts

/-- The exponent of the last place of binary64 numbers of a magnitude. -/
theorem targetExponent_totalExponent (mantissa : ℕ) (exponent : ℤ) :
    Format.binary64.targetExponent (totalExponent mantissa exponent) =
      max (mantissa.log2 + exponent - 52) (-1074) := by
  simp only [Format.targetExponent, totalExponent, Format.mantissaBits, Format.minExponent]
  norm_num
  omega

namespace Binary.IsCanonical

variable {b : Binary}

theorem log2_le (canonical : b.IsCanonical) : b.significand.log2 ≤ 52 := by
  have less := (Nat.log2_lt canonical.positive.ne').mpr canonical.bounded
  omega

theorem log2_of_normal (canonical : b.IsCanonical) (normal : 2 ^ 52 ≤ b.significand) :
    b.significand.log2 = 52 := by
  have least := (Nat.le_log2 canonical.positive.ne').mpr normal
  have greatest := canonical.log2_le
  omega

theorem targetExponent (canonical : b.IsCanonical) :
    Format.binary64.targetExponent (totalExponent b.significand b.exponent) = b.exponent := by
  rw [targetExponent_totalExponent]
  have greatest := canonical.log2_le
  have lowest := canonical.lowest
  rcases canonical.normal with least | normal
  · omega
  · have exactly := canonical.log2_of_normal normal
    omega

end Binary.IsCanonical

/-- The interval of a number in units of its last place. -/
theorem Binary.contains_interval_iff (b : Binary) (x : ℚ) :
    b.interval.Contains x ↔
      if b.significand % 2 = 0 then
        (b.interval.low : ℚ) / 4 ≤ x / 2 ^ b.exponent ∧
          x / 2 ^ b.exponent ≤ (b.interval.high : ℚ) / 4
      else
        (b.interval.low : ℚ) / 4 < x / 2 ^ b.exponent ∧
          x / 2 ^ b.exponent < (b.interval.high : ℚ) / 4 := by
  have unit_pos : (0 : ℚ) < 2 ^ b.exponent := by positivity
  have closed_iff : b.interval.closed = true ↔ b.significand % 2 = 0 := decide_eq_true_iff
  have scaled : ∀ c : ℚ, c * 2 ^ b.interval.exponent = c / 4 * 2 ^ b.exponent := by
    intro c
    have exponent_eq : b.interval.exponent = b.exponent - 2 := rfl
    rw [exponent_eq, zpow_sub₀ two_ne_zero]
    norm_num
    ring
  simp only [Interval.Contains, closed_iff, scaled, le_div_iff₀ unit_pos, div_le_iff₀ unit_pos,
    lt_div_iff₀ unit_pos, div_lt_iff₀ unit_pos]

theorem Binary.IsCanonical.cast_low {b : Binary} (canonical : b.IsCanonical) :
    (b.interval.low : ℚ) =
      if b.significand = 2 ^ 52 ∧ -1074 < b.exponent then 4 * (b.significand : ℚ) - 1
      else 4 * b.significand - 2 := by
  have positive := canonical.positive
  simp only [Binary.interval, Nat.pow_eq]
  split_ifs
  · rw [Nat.cast_sub (by omega)]
    push_cast
    rfl
  · rw [Nat.cast_sub (by omega)]
    push_cast
    rfl

theorem Binary.cast_high (b : Binary) : (b.interval.high : ℚ) = 4 * b.significand + 2 := by
  simp [Binary.interval]

/-- What lies in the interval of a number is as near to it as rounding takes it. -/
theorem Binary.IsCanonical.attracts {b : Binary} (canonical : b.IsCanonical) {x : ℚ}
    (caught : b.interval.Contains x) : b.Attracts (x / 2 ^ b.exponent) := by
  rw [b.contains_interval_iff, b.cast_high] at caught
  have half_below : 4 * (b.significand : ℚ) - 2 ≤ b.interval.low := by
    rw [canonical.cast_low]
    split_ifs <;> linarith
  have between : (b.interval.low : ℚ) / 4 ≤ x / 2 ^ b.exponent ∧
      x / 2 ^ b.exponent ≤ (4 * b.significand + 2 : ℚ) / 4 := by
    split_ifs at caught
    · exact caught
    · exact ⟨caught.1.le, caught.2.le⟩
  constructor
  · linarith [between.1]
  · linarith [between.2]
  · intro odd
    rw [if_neg (by omega)] at caught
    constructor
    · linarith [caught.1]
    · linarith [caught.2]
  · intro power above
    rw [canonical.cast_low, if_pos ⟨power, above⟩, power] at between
    push_cast at between
    linarith [between.1]

theorem two_zpow_natCast_add (count : ℕ) (exponent : ℤ) :
    (2 : ℚ) ^ (count + exponent) = 2 ^ count * 2 ^ exponent := by
  rw [zpow_add₀ two_ne_zero, zpow_natCast]

theorem lt_of_two_zpow_lt {e f : ℤ} (less : (2 : ℚ) ^ e < 2 ^ f) : e < f :=
  (zpow_lt_zpow_iff_right₀ one_lt_two).mp less

/-- The length of a significand tells the magnitude of the rational that it is cut off. -/
theorem magnitude_of_cut {x : ℚ} {mantissa : ℕ} {exponent : ℤ}
    (low : mantissa ≤ x / 2 ^ exponent) (high : x / 2 ^ exponent < mantissa + 1) :
    x < 2 ^ ((mantissa.log2 + 1 : ℕ) + exponent) ∧
      (mantissa ≠ 0 → 2 ^ (mantissa.log2 + exponent) ≤ x) := by
  have unit_pos : (0 : ℚ) < 2 ^ exponent := by positivity
  constructor
  · have mantissa_lt : (mantissa + 1 : ℚ) ≤ 2 ^ (mantissa.log2 + 1) := by
      exact_mod_cast Nat.lt_log2_self
    rw [two_zpow_natCast_add, ← div_lt_iff₀ unit_pos]
    exact high.trans_le mantissa_lt
  · intro nonzero
    have le_mantissa : (2 : ℚ) ^ mantissa.log2 ≤ mantissa := by
      exact_mod_cast Nat.log2_self_le nonzero
    rw [two_zpow_natCast_add, ← le_div_iff₀ unit_pos]
    exact le_mantissa.trans low

/-- The exponent to which rounding shifts a significand that is cut off a rational near a
number: that of the number, or one less just below a power of two. -/
theorem Binary.IsCanonical.exponent_of_cut {b : Binary} (canonical : b.IsCanonical)
    {x : ℚ} {mantissa : ℕ} {exponent : ℤ} (near : b.Attracts (x / 2 ^ b.exponent))
    (low : mantissa ≤ x / 2 ^ exponent) (high : x / 2 ^ exponent < mantissa + 1)
    (long : 52 ≤ mantissa.log2 ∨ exponent ≤ -1074) :
    max (mantissa.log2 + exponent - 52) (-1074) = b.exponent ∨
      max (mantissa.log2 + exponent - 52) (-1074) = b.exponent - 1 ∧
        b.significand = 2 ^ 52 ∧ -1074 < b.exponent ∧ x / 2 ^ b.exponent < 2 ^ 52 := by
  have unit_pos : (0 : ℚ) < 2 ^ b.exponent := by positivity
  have lowest := canonical.lowest
  obtain ⟨above_cut, below_cut⟩ := magnitude_of_cut low high
  have not_above : mantissa.log2 + exponent - 52 ≤ b.exponent := by
    by_cases nonzero : mantissa = 0
    · subst nonzero
      simp only [Nat.log2_zero] at long ⊢
      omega
    · have x_lt : x < 2 ^ ((53 : ℕ) + b.exponent) := by
        have bounded : (b.significand : ℚ) + 1 ≤ 2 ^ 53 := by exact_mod_cast canonical.bounded
        rw [two_zpow_natCast_add, ← div_lt_iff₀ unit_pos]
        linarith [near.high]
      have less := lt_of_two_zpow_lt ((below_cut nonzero).trans_lt x_lt)
      omega
  by_cases least : b.exponent = -1074
  · left
    omega
  -- Only below a power of two can the rational be shorter by one bit than the number.
  have above : -1074 < b.exponent := by omega
  have normal : 2 ^ 52 ≤ b.significand := canonical.normal.resolve_left least
  rcases normal.eq_or_lt with power | larger
  · have quarter_below := near.power power.symm above
    have lt_x : 2 ^ ((51 : ℕ) + b.exponent) < x := by
      rw [two_zpow_natCast_add, ← lt_div_iff₀ unit_pos]
      linarith
    have less := lt_of_two_zpow_lt (lt_x.trans above_cut)
    by_cases reached : mantissa.log2 + exponent - 52 = b.exponent
    · left
      omega
    · right
      have just_below : ((mantissa.log2 + 1 : ℕ) + exponent : ℤ) = (52 : ℕ) + b.exponent := by
        omega
      rw [just_below, two_zpow_natCast_add, ← div_lt_iff₀ unit_pos] at above_cut
      exact ⟨by omega, power.symm, above, above_cut⟩
  · left
    have larger_cast : (2 : ℚ) ^ 52 + 1 ≤ b.significand := by exact_mod_cast larger
    have lt_x : 2 ^ ((52 : ℕ) + b.exponent) < x := by
      rw [two_zpow_natCast_add, ← lt_div_iff₀ unit_pos]
      linarith [near.low]
    have less := lt_of_two_zpow_lt (lt_x.trans above_cut)
    omega

/-- Shifting a significand that is cut off a rational to the last place of binary64 numbers
of its magnitude. -/
theorem shiftToTargetExponent_cuts {mantissa : ℕ} {exponent : ℤ} {accuracy : Accuracy} {x : ℚ}
    (cuts : Cuts (.ofMantissaAndAccuracy mantissa accuracy) (x / 2 ^ exponent))
    (long : 52 ≤ mantissa.log2 ∨ exponent ≤ -1074) :
    ∃ em, shiftToTargetExponent Format.binary64 mantissa exponent accuracy =
        (em, max (mantissa.log2 + exponent - 52) (-1074)) ∧
      Cuts em (x / 2 ^ max (mantissa.log2 + exponent - 52 : ℤ) (-1074)) := by
  have target_ge : exponent ≤ max (mantissa.log2 + exponent - 52 : ℤ) (-1074) := by omega
  rw [shiftToTargetExponent, targetExponent_totalExponent, shiftToExponent]
  generalize max (mantissa.log2 + exponent - 52 : ℤ) (-1074) = target at target_ge ⊢
  obtain ⟨count, rfl⟩ := Int.le.dest target_ge
  have shift : (exponent + count - exponent).toNat = count := by omega
  rw [shift, zpow_add₀ two_ne_zero, zpow_natCast, ← div_div]
  exact ⟨_, rfl, cuts.shiftRight count⟩

/-- The significand of a number is not shifted again. -/
theorem Binary.IsCanonical.shiftToTargetExponent_exact {b : Binary}
    (canonical : b.IsCanonical) :
    shiftToTargetExponent Format.binary64 b.significand b.exponent .exact =
      (.ofMantissaAndAccuracy b.significand .exact, b.exponent) := by
  rw [shiftToTargetExponent, canonical.targetExponent, shiftToExponent, Int.sub_self]
  simp [HShiftRight.hShiftRight, Nat.repeat]

/-- A significand that rounding made one bit longer is shifted once more. -/
theorem shiftToTargetExponent_carry {exponent : ℤ} (above : -1074 < exponent) :
    shiftToTargetExponent Format.binary64 (2 ^ 53) (exponent - 1) .exact =
      (.ofMantissaAndAccuracy (2 ^ 52) .exact, exponent) := by
  have target : max (((2 ^ 53 : ℕ).log2 : ℤ) + (exponent - 1) - 52) (-1074) = exponent := by
    rw [Nat.log2_two_pow]
    omega
  have shift : (exponent - (exponent - 1)).toNat = 1 := by omega
  rw [shiftToTargetExponent, targetExponent_totalExponent, target, shiftToExponent, shift]
  simp [HShiftRight.hShiftRight, Nat.repeat, ExtendedMantissa.shiftRightOne,
    ExtendedMantissa.ofMantissaAndAccuracy]

/-- A significand that is cut off a rational in the interval of a number rounds to the
number. -/
theorem Binary.IsCanonical.roundWithAccuracy_eq {b : Binary} (canonical : b.IsCanonical)
    {x : ℚ} (caught : b.interval.Contains x) {mantissa : ℕ} {exponent : ℤ}
    {accuracy : Accuracy}
    (cuts : Cuts (.ofMantissaAndAccuracy mantissa accuracy) (x / 2 ^ exponent))
    (long : 52 ≤ mantissa.log2 ∨ exponent ≤ -1074) :
    roundWithAccuracy Format.binary64 .positive mantissa exponent accuracy =
      .finite .positive b.significand b.exponent canonical.positive := by
  have near := canonical.attracts caught
  obtain ⟨em, shifted, cuts_shifted⟩ := shiftToTargetExponent_cuts cuts long
  rw [roundWithAccuracy, shifted]
  dsimp only
  have low := cuts.low
  have high := cuts.high
  rw [mantissa_ofMantissaAndAccuracy] at low high
  rcases canonical.exponent_of_cut near low high long with
    same | ⟨one_less, power, above, below⟩
  · rw [same] at cuts_shifted ⊢
    rw [cuts_shifted.roundedMantissa_eq near.low near.high near.odd,
      canonical.shiftToTargetExponent_exact]
    exact dif_neg canonical.positive.ne'
  · rw [one_less] at cuts_shifted ⊢
    have doubled : x / 2 ^ (b.exponent - 1) = 2 * (x / 2 ^ b.exponent) := by
      rw [zpow_sub₀ two_ne_zero, zpow_one]
      field_simp
    rw [doubled] at cuts_shifted
    have quarter_below := near.power power above
    have rounded : em.roundedMantissa = 2 ^ 53 := by
      refine cuts_shifted.roundedMantissa_eq ?_ ?_ (fun odd => absurd odd (by norm_num))
      · push_cast
        linarith
      · push_cast
        linarith
    rw [rounded, shiftToTargetExponent_carry above]
    obtain ⟨significand, exponent⟩ := b
    subst power
    exact dif_neg canonical.positive.ne'

end WindowPlacement.Decimal
