import BlockData.Number.Binary64
import Mathlib.Algebra.Order.Ring.Nat
import Mathlib.Data.Nat.Log
import Mathlib.Tactic.Ring

/-!
# Rounding to binary64

`Binary64.nearest` depends on the quotient only and not on how it is written
(`nearest_congr`), and it gives every finite magnitude back (`nearest_units`). Quotients
of the two far ends are known without computing them: one above all finite numbers, and
one below half of the smallest positive number.
-/

namespace BlockData.Binary64

/-- One is a power of two of the smallest positive numbers. -/
theorem unitsInOne_eq : unitsInOne = 2 ^ 1074 := by
  unfold unitsInOne
  generalize 1074 = places
  exact Nat.one_shiftLeft places

theorem unitsInOne_pos : 0 < unitsInOne := by
  rw [unitsInOne_eq]
  generalize 1074 = places
  exact Nat.two_pow_pos places

theorem hiddenBit_eq : hiddenBit = 2 ^ 52 :=
  rfl

/-- Rounding depends on the quotient only. -/
theorem roundQuotient_mul_left {scale : Nat} (positive : 0 < scale) (numerator denominator : Nat) :
    roundQuotient (scale * numerator) (scale * denominator) =
      roundQuotient numerator denominator := by
  have tie : 2 * (scale * (numerator % denominator)) =
      scale * (2 * (numerator % denominator)) := by ring
  simp only [roundQuotient, Nat.mul_div_mul_left _ _ positive, Nat.mul_mod_mul_left, tie,
    Nat.mul_lt_mul_left positive, Nat.mul_right_inj (Nat.ne_of_gt positive)]

/-- A whole quotient is rounded to itself. -/
theorem roundQuotient_mul {denominator : Nat} (positive : 0 < denominator) (quotient : Nat) :
    roundQuotient (quotient * denominator) denominator = quotient := by
  simp [roundQuotient, Nat.mul_div_cancel quotient positive, positive]

/-- Rounding is to one of the two neighbours. -/
theorem div_le_roundQuotient (numerator denominator : Nat) :
    numerator / denominator ≤ roundQuotient numerator denominator := by
  simp only [roundQuotient]
  split <;> omega

/-- Rounding a scaled quotient to binary64 gives the same magnitude. -/
theorem nearest_mul_left {scale : Nat} (positive : 0 < scale) (numerator denominator : Nat) :
    nearest (scale * numerator) (scale * denominator) = nearest numerator denominator := by
  have scaled : scale * numerator * unitsInOne = scale * (numerator * unitsInOne) :=
    Nat.mul_assoc ..
  have whole : scale * (numerator * unitsInOne) / (scale * denominator) =
      numerator * unitsInOne / denominator := Nat.mul_div_mul_left _ _ positive
  simp only [nearest, scaled, whole, Nat.shiftLeft_eq, Nat.mul_assoc,
    roundQuotient_mul_left positive]

/-- The nearest magnitude depends on the quotient only. -/
theorem nearest_congr {numerator denominator otherNumerator otherDenominator : Nat}
    (positive : 0 < denominator) (otherPositive : 0 < otherDenominator)
    (same : numerator * otherDenominator = otherNumerator * denominator) :
    nearest numerator denominator = nearest otherNumerator otherDenominator := by
  calc nearest numerator denominator
      = nearest (otherDenominator * numerator) (otherDenominator * denominator) :=
        (nearest_mul_left otherPositive _ _).symm
    _ = nearest (denominator * otherNumerator) (denominator * otherDenominator) := by
        rw [Nat.mul_comm otherDenominator numerator, same, Nat.mul_comm otherNumerator,
          Nat.mul_comm otherDenominator]
    _ = nearest otherNumerator otherDenominator := nearest_mul_left positive _ _

/-- Small magnitudes count the smallest positive number. -/
theorem units_eq_self {magnitude : Nat} (small : magnitude < 2 * hiddenBit) :
    units magnitude = magnitude := by
  unfold units
  split
  · rfl
  · have exponent : magnitude / hiddenBit = 1 := by
      simp only [hiddenBit] at *
      omega
    rw [exponent, Nat.sub_self, Nat.shiftLeft_zero]
    simp only [hiddenBit] at *
    omega

/-- Large magnitudes are a significand that is shifted. -/
theorem units_eq_mul {magnitude : Nat} (large : 2 * hiddenBit ≤ magnitude) :
    units magnitude =
      (hiddenBit + magnitude % hiddenBit) * 2 ^ (magnitude / hiddenBit - 1) := by
  have normal : ¬magnitude < hiddenBit := by
    simp only [hiddenBit] at *
    omega
  rw [units, if_neg normal, Nat.shiftLeft_eq]

/-- Every magnitude is the nearest one to its own number. -/
theorem nearest_units (magnitude : Nat) : nearest (units magnitude) unitsInOne = magnitude := by
  by_cases small : magnitude < 2 * hiddenBit
  · simp only [nearest, units_eq_self small, Nat.mul_div_cancel _ unitsInOne_pos, if_pos small,
      Nat.shiftLeft_zero, roundQuotient_mul unitsInOne_pos, Nat.zero_mul, Nat.zero_add]
  · have large : 2 * hiddenBit ≤ magnitude := Nat.le_of_not_lt small
    -- the significand keeps its 53 bits, so the shift is read off its logarithm
    obtain ⟨exponent, isExponent⟩ : ∃ exponent, magnitude / hiddenBit = exponent + 2 :=
      ⟨magnitude / hiddenBit - 2, by simp only [hiddenBit] at *; omega⟩
    have significandLess : magnitude % hiddenBit < hiddenBit := Nat.mod_lt _ (by decide)
    have split : hiddenBit * (exponent + 2) + magnitude % hiddenBit = magnitude := by
      rw [← isExponent]
      exact Nat.div_add_mod magnitude hiddenBit
    have isProduct : units magnitude =
        (hiddenBit + magnitude % hiddenBit) * 2 ^ (exponent + 1) := by
      rw [units_eq_mul large, isExponent, show exponent + 2 - 1 = exponent + 1 from rfl]
    generalize magnitude % hiddenBit = stored at significandLess split isProduct
    have logarithm : (units magnitude).log2 = exponent + 53 := by
      have power : 2 ^ (exponent + 53) = hiddenBit * 2 ^ (exponent + 1) := by
        rw [hiddenBit_eq, ← Nat.pow_add]
        congr 1
        omega
      have above : 2 ^ (exponent + 53) ≤ units magnitude := by
        rw [power, isProduct]
        exact Nat.mul_le_mul_right _ (Nat.le_add_right ..)
      have below : units magnitude < 2 ^ (exponent + 53 + 1) := by
        rw [Nat.pow_succ, power, isProduct, Nat.mul_right_comm]
        exact Nat.mul_lt_mul_of_pos_right (by omega) (Nat.two_pow_pos _)
      have nonzero : units magnitude ≠ 0 :=
        Nat.ne_of_gt (Nat.lt_of_lt_of_le (Nat.two_pow_pos _) above)
      exact (Nat.log2_eq_iff nonzero).mpr ⟨above, below⟩
    have notSmall : ¬units magnitude < 2 * hiddenBit := by
      have even : 2 ^ 1 ≤ 2 ^ (exponent + 1) := Nat.pow_le_pow_right (by decide) (by omega)
      have product := Nat.mul_le_mul (Nat.le_add_right hiddenBit stored) even
      rw [isProduct]
      omega
    have shift : (units magnitude).log2 - 52 = exponent + 1 := by omega
    simp only [nearest, Nat.mul_div_cancel _ unitsInOne_pos, if_neg notSmall, shift,
      Nat.shiftLeft_eq]
    rw [isProduct, Nat.mul_assoc, Nat.mul_comm (2 ^ (exponent + 1)),
      roundQuotient_mul (Nat.mul_pos unitsInOne_pos (Nat.two_pow_pos _))]
    calc (exponent + 1) * hiddenBit + (hiddenBit + stored)
        = hiddenBit * (exponent + 2) + stored := by ring
      _ = magnitude := split

/-- A quotient with many bits has a large magnitude. -/
theorem le_nearest {numerator denominator exponent : Nat}
    (large : 2 ^ (exponent + 53) ≤ numerator * unitsInOne / denominator) :
    (exponent + 2) * hiddenBit ≤ nearest numerator denominator := by
  generalize isWhole : numerator * unitsInOne / denominator = whole at large
  have nonzero : whole ≠ 0 := Nat.ne_of_gt (Nat.lt_of_lt_of_le (Nat.two_pow_pos _) large)
  have notSmall : ¬whole < 2 * hiddenBit := by
    have least : 2 ^ 53 ≤ 2 ^ (exponent + 53) := Nat.pow_le_pow_right (by decide) (by omega)
    have power : 2 * hiddenBit = 2 ^ 53 := rfl
    omega
  have logarithm : exponent + 53 ≤ whole.log2 := (Nat.le_log2 nonzero).mpr large
  -- the shift leaves 53 bits before the point
  obtain ⟨shift, isShift⟩ : ∃ shift, whole.log2 = shift + 52 := ⟨whole.log2 - 52, by omega⟩
  have significand : hiddenBit ≤ numerator * unitsInOne / (denominator * 2 ^ shift) := by
    rw [← Nat.div_div_eq_div_mul, isWhole, Nat.le_div_iff_mul_le (Nat.two_pow_pos _), hiddenBit_eq,
      ← Nat.pow_add, Nat.add_comm, ← isShift]
    exact Nat.log2_self_le nonzero
  have rounded := Nat.le_trans significand (div_le_roundQuotient _ _)
  have shifted : (exponent + 1) * hiddenBit ≤ shift * hiddenBit :=
    Nat.mul_le_mul_right _ (by omega)
  simp only [nearest, isWhole, if_neg notSmall, isShift, Nat.add_sub_cancel, Nat.shiftLeft_eq]
  calc (exponent + 2) * hiddenBit
      = (exponent + 1) * hiddenBit + hiddenBit := by ring
    _ ≤ _ := Nat.add_le_add shifted rounded

/-- A quotient that is less than half of the smallest positive number is rounded to
zero. -/
theorem nearest_eq_zero {numerator denominator : Nat}
    (tiny : 2 * (numerator * unitsInOne) < denominator) : nearest numerator denominator = 0 := by
  have whole : numerator * unitsInOne / denominator = 0 := Nat.div_eq_of_lt (by omega)
  have remainder : numerator * unitsInOne % denominator = numerator * unitsInOne :=
    Nat.mod_eq_of_lt (by omega)
  have subnormal : 0 < 2 * hiddenBit := by decide
  simp only [nearest, whole, if_pos subnormal, Nat.shiftLeft_zero, Nat.zero_mul, Nat.zero_add,
    roundQuotient, remainder, if_pos (Or.inl tiny)]

end BlockData.Binary64
