import WindowPlacement.Proofs.Rounding

/-!
# The shortest decimal rounds back

Whatever point of a grid of decimals stands for an interval lies in the interval, and a grid
whose step is less than half of the last place of a number has such a point.  The last grid
that is searched is that fine for every binary64 number, so the search always ends with a
decimal that rounds to the number.
-/

namespace WindowPlacement.Decimal

theorem zpow_mul_pow_toNat_neg {base : ℚ} (nonzero : base ≠ 0) (e : ℤ) :
    base ^ e * base ^ (-e).toNat = base ^ e.toNat := by
  rw [← zpow_natCast, ← zpow_natCast, ← zpow_add₀ nonzero]
  congr 1
  omega

theorem commonScale_ratio (binary decimal : ℤ) :
    ((commonScale binary decimal).1 : ℚ) * 10 ^ decimal =
      (commonScale binary decimal).2 * 2 ^ binary := by
  have twos := zpow_mul_pow_toNat_neg (two_ne_zero : (2 : ℚ) ≠ 0) binary
  have tens := zpow_mul_pow_toNat_neg (by norm_num : (10 : ℚ) ≠ 0) decimal
  simp only [commonScale, Nat.pow_eq]
  push_cast
  rw [← twos, ← tens]
  ring

theorem commonScale_pos (binary decimal : ℤ) :
    0 < (commonScale binary decimal).1 ∧ 0 < (commonScale binary decimal).2 := by
  constructor <;> simp only [commonScale, Nat.pow_eq] <;> positivity

/-- Both powers are whole multiples of one unit. -/
theorem exists_unit (binary decimal : ℤ) : ∃ unit : ℚ, 0 < unit ∧
    (2 : ℚ) ^ binary = (commonScale binary decimal).1 * unit ∧
      (10 : ℚ) ^ decimal = (commonScale binary decimal).2 * unit := by
  have ratio := commonScale_ratio binary decimal
  have step_pos : (0 : ℚ) < (commonScale binary decimal).2 := by
    exact_mod_cast (commonScale_pos binary decimal).2
  refine ⟨10 ^ decimal / (commonScale binary decimal).2, by positivity, ?_, ?_⟩
  · rw [mul_div_assoc', ratio]
    field_simp
  · field_simp

/-- Whether a point of a grid lies in an interval is decided on multiples of a common unit. -/
theorem Interval.inside_iff (i : Interval) (decimal : ℤ) (digits : ℕ) :
    (if i.closed then
        decide (i.low * (commonScale i.exponent decimal).1 ≤
            digits * (commonScale i.exponent decimal).2) &&
          decide (digits * (commonScale i.exponent decimal).2 ≤
            i.high * (commonScale i.exponent decimal).1)
      else
        decide (i.low * (commonScale i.exponent decimal).1 <
            digits * (commonScale i.exponent decimal).2) &&
          decide (digits * (commonScale i.exponent decimal).2 <
            i.high * (commonScale i.exponent decimal).1)) = true ↔
      i.Contains (digits * 10 ^ decimal) := by
  obtain ⟨unit, unit_pos, binary_eq, decimal_eq⟩ := exists_unit i.exponent decimal
  unfold Interval.Contains
  rw [binary_eq, decimal_eq, ← mul_assoc, ← mul_assoc, ← mul_assoc]
  simp only [mul_le_mul_iff_left₀ unit_pos, mul_lt_mul_iff_left₀ unit_pos]
  split_ifs
  · rw [Bool.and_eq_true, decide_eq_true_iff, decide_eq_true_iff]
    norm_cast
  · rw [Bool.and_eq_true, decide_eq_true_iff, decide_eq_true_iff]
    norm_cast

/-- The point of a grid that stands for an interval lies in the interval. -/
theorem Interval.contains_of_onGrid?_eq_some {i : Interval} {decimal : ℤ} {d : Digits}
    (found : i.onGrid? decimal = some d) : i.Contains (d.digits * 10 ^ d.exponent) := by
  simp only [Interval.onGrid?] at found
  split at found
  · next below_inside above_inside =>
    split at found
    · obtain rfl := Option.some.inj found
      exact (i.inside_iff _ _).mp below_inside
    · obtain rfl := Option.some.inj found
      exact (i.inside_iff _ _).mp above_inside
  · next below_inside _ =>
    obtain rfl := Option.some.inj found
    exact (i.inside_iff _ _).mp below_inside
  · next _ above_inside =>
    obtain rfl := Option.some.inj found
    exact (i.inside_iff _ _).mp above_inside
  · contradiction

/-- A grid has a point for an interval if the point above the middle lies in it. -/
theorem Interval.isSome_onGrid? {i : Interval} {decimal : ℤ}
    (reached : i.Contains ((i.middle * (commonScale i.exponent decimal).1 /
      (commonScale i.exponent decimal).2 + 1 : ℕ) * 10 ^ decimal)) :
    (i.onGrid? decimal).isSome = true := by
  have above_inside := (i.inside_iff _ _).mpr reached
  simp only [Interval.onGrid?]
  split
  · split <;> rfl
  · rfl
  · rfl
  · next _ above_outside =>
    rw [above_inside] at above_outside
    contradiction

/-- A grid whose step is less than half of the last place of a number has a point for it. -/
theorem Binary.isSome_onGrid? {b : Binary} {decimal : ℤ}
    (fine : (10 : ℚ) ^ decimal < 2 ^ (b.exponent - 1)) :
    (b.interval.onGrid? decimal).isSome = true := by
  apply Interval.isSome_onGrid?
  rw [← Interval.inside_iff]
  obtain ⟨unit, unit_pos, binary_eq, decimal_eq⟩ := exists_unit b.interval.exponent decimal
  have step_pos := (commonScale_pos b.interval.exponent decimal).2
  generalize (commonScale b.interval.exponent decimal).1 = scale at binary_eq ⊢
  generalize (commonScale b.interval.exponent decimal).2 = step at decimal_eq step_pos ⊢
  have step_lt : step < 2 * scale := by
    have half : (2 : ℚ) ^ (b.exponent - 1) = 2 * scale * unit := by
      have exponent_eq : b.exponent - 1 = 1 + b.interval.exponent := by
        simp only [Binary.interval]
        omega
      rw [exponent_eq, zpow_add₀ two_ne_zero, zpow_one, binary_eq, mul_assoc]
    rw [half, decimal_eq, mul_lt_mul_iff_left₀ unit_pos] at fine
    exact_mod_cast fine
  have low_le : b.interval.low ≤ b.interval.middle := by
    simp only [Binary.interval]
    split_ifs <;> omega
  have high_eq : b.interval.high = b.interval.middle + 2 := rfl
  have low_scaled := Nat.mul_le_mul_right scale low_le
  have high_scaled : b.interval.high * scale = b.interval.middle * scale + 2 * scale := by
    rw [high_eq, Nat.add_mul]
  generalize b.interval.middle * scale = middle at low_scaled high_scaled ⊢
  have above_gt : middle < (middle / step + 1) * step := by
    rw [Nat.mul_comm]
    exact Nat.lt_mul_div_succ middle step_pos
  have above_le : (middle / step + 1) * step ≤ middle + step := by
    rw [Nat.add_mul, Nat.one_mul]
    exact Nat.add_le_add_right (Nat.div_mul_le_self middle step) step
  have lower : b.interval.low * scale < (middle / step + 1) * step := by omega
  have upper : (middle / step + 1) * step < b.interval.high * scale := by omega
  split_ifs <;> simp [lower, upper, lower.le, upper.le]

/-- A power of ten is at most a power of two if the exponents have a ratio below that of
`n` and `d` up to a constant, and `10 ^ n` and `2 ^ d` are in the right order. -/
theorem ten_zpow_le_of_ratio {s e : ℤ} (d : ℕ) (n : ℤ) (c : ℕ) (d_ne : d ≠ 0)
    (ratio : d * s ≤ n * e + c) (base : ((10 : ℚ) ^ n) ^ e ≤ ((2 : ℚ) ^ d) ^ e)
    (slack : (10 : ℚ) ^ c ≤ 2 ^ d) : (10 : ℚ) ^ s ≤ 2 ^ (e + 1) := by
  have powers : ((10 : ℚ) ^ s) ^ d ≤ (2 ^ (e + 1)) ^ d :=
    calc ((10 : ℚ) ^ s) ^ d = 10 ^ (d * s) := by rw [← zpow_natCast, ← zpow_mul, mul_comm]
      _ ≤ 10 ^ (n * e + c) := zpow_le_zpow_right₀ (by norm_num) ratio
      _ = (10 ^ n) ^ e * 10 ^ c := by
          rw [zpow_add₀ (by norm_num), zpow_mul, zpow_natCast]
      _ ≤ (2 ^ d) ^ e * 2 ^ d := mul_le_mul base slack (by positivity) (by positivity)
      _ = (2 ^ (e + 1)) ^ d := by
          rw [← zpow_add_one₀ (by positivity), ← zpow_natCast, ← zpow_mul, ← zpow_natCast,
            ← zpow_mul, mul_comm]
  exact (pow_le_pow_iff_left₀ (by positivity) (by positivity) d_ne).mp powers

/-- The estimate of a decimal exponent by a binary one, for the exponents of binary64
numbers. -/
theorem ten_zpow_le {s e : ℤ} (ratio : 100000 * s ≤ 30103 * e) (least : -1100 ≤ e)
    (greatest : e ≤ 1100) : (10 : ℚ) ^ s ≤ 2 ^ (e + 1) := by
  rcases le_or_gt 0 e with nonneg | negative
  · refine ten_zpow_le_of_ratio 196 59 2 (by norm_num) (by push_cast; omega) ?_ (by norm_num)
    obtain ⟨count, rfl⟩ := Int.eq_ofNat_of_zero_le nonneg
    rw [zpow_natCast, zpow_natCast]
    exact pow_le_pow_left₀ (by positivity) (by norm_num) count
  · refine ten_zpow_le_of_ratio 93 28 5 (by norm_num) (by push_cast; omega) ?_ (by norm_num)
    obtain ⟨count, rfl⟩ : ∃ count : ℕ, e = -count := ⟨(-e).toNat, by omega⟩
    rw [zpow_neg, zpow_neg, zpow_natCast, zpow_natCast]
    exact inv_anti₀ (by positivity) (pow_le_pow_left₀ (by positivity) (by norm_num) count)

/-- The last grid that is searched is fine enough. -/
theorem Binary.IsCanonical.last_grid_fine {b : Binary} (canonical : b.IsCanonical) :
    (10 : ℚ) ^ (b.decimalExponent - 19) < 2 ^ (b.exponent - 1) := by
  have log2_le := canonical.log2_le
  have lowest := canonical.lowest
  have highest := canonical.highest
  obtain ⟨s, s_eq, ratio⟩ : ∃ s : ℤ, b.decimalExponent - 19 = s - 18 ∧
      100000 * s ≤ 30103 * (b.significand.log2 + 1 + b.exponent) := by
    refine ⟨b.decimalExponent - 1, by omega, ?_⟩
    rw [Binary.decimalExponent, Int.fdiv_eq_ediv_of_nonneg _ (by norm_num)]
    omega
  have estimate := ten_zpow_le ratio (by omega) (by omega)
  calc (10 : ℚ) ^ (b.decimalExponent - 19)
      = 10 ^ s / 10 ^ 18 := by rw [s_eq, zpow_sub₀ (by norm_num), zpow_ofNat 10 18]
    _ ≤ 2 ^ (b.significand.log2 + 1 + b.exponent + 1) / 10 ^ 18 := by gcongr
    _ < 2 ^ (b.significand.log2 + 1 + b.exponent + 1) / 2 ^ 55 :=
        div_lt_div_of_pos_left (by positivity) (by positivity) (by norm_num)
    _ = 2 ^ (b.significand.log2 + 1 + b.exponent + 1 - 55) := by
        rw [zpow_sub₀ two_ne_zero, zpow_ofNat 2 55]
    _ ≤ 2 ^ (b.exponent - 1) := zpow_le_zpow_right₀ one_le_two (by omega)

/-- The shortest decimal of a number lies in the interval of the number. -/
theorem Binary.IsCanonical.contains_shortest {b : Binary} (canonical : b.IsCanonical) :
    b.interval.Contains (b.shortest.digits * 10 ^ b.shortest.exponent) := by
  have hit := b.isSome_onGrid? canonical.last_grid_fine
  have found : ((List.range 20).findSome? fun n : ℕ =>
      b.interval.onGrid? (b.decimalExponent - n)).isSome = true := by
    rw [List.isSome_findSome?, List.any_eq_true]
    exact ⟨19, by simp, by exact_mod_cast hit⟩
  obtain ⟨d, d_found⟩ := Option.isSome_iff_exists.mp found
  have shortest_eq : b.shortest = d := by rw [Binary.shortest, d_found, Option.getD_some]
  obtain ⟨n, _, on_grid⟩ := List.exists_of_findSome?_eq_some d_found
  rw [shortest_eq]
  exact Interval.contains_of_onGrid?_eq_some on_grid

end WindowPlacement.Decimal
