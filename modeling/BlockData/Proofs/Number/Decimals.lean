import BlockData.Number.Shortest
import BlockData.Proofs.Number.Rounding
import Mathlib.Algebra.Order.Field.Rat
import Mathlib.Tactic.FieldSimp
import Mathlib.Tactic.NormNum

/-!
# Values of decimals

A decimal stands for a rational number. Decimals of the same number are rounded to the
same magnitude if it is finite (`Decimal.toMagnitude_congr`), whatever their
coefficients and exponents are; and the shortest decimal of a finite magnitude is
rounded to that magnitude (`Decimal.toMagnitude_shortest`).
-/

namespace BlockData

namespace Decimal

open Binary64

/-- The number that a decimal stands for. -/
def number (decimal : Decimal) : ℚ :=
  decimal.coefficient * 10 ^ decimal.exponent

/-- The numerator of a decimal as a quotient of natural numbers. -/
def numerator (decimal : Decimal) : Nat :=
  decimal.coefficient * 10 ^ decimal.exponent.toNat

/-- The denominator of a decimal as a quotient of natural numbers. -/
def denominator (decimal : Decimal) : Nat :=
  10 ^ (-decimal.exponent).toNat

theorem denominator_pos (decimal : Decimal) : 0 < decimal.denominator :=
  Nat.pow_pos (by decide)

/-- A decimal is a quotient of natural numbers. -/
theorem number_eq_div (decimal : Decimal) :
    decimal.number = decimal.numerator / decimal.denominator := by
  obtain ⟨coefficient, exponent⟩ := decimal
  cases exponent with
  | ofNat exponent => simp [number, numerator, denominator]
  | negSucc exponent =>
      simp [number, numerator, denominator, zpow_negSucc, div_eq_mul_inv]

/-- A decimal with a far positive exponent is beyond the finite numbers. -/
theorem infinityBits_le_nearest {coefficient exponent : Nat} (nonzero : coefficient ≠ 0)
    (far : 310 < exponent) : infinityBits ≤ nearest (coefficient * 10 ^ exponent) 1 := by
  have tens : 2 ^ 1024 ≤ 10 ^ exponent := by
    have block : 2 ^ 93 ≤ 10 ^ 28 := by decide
    calc 2 ^ 1024
        = (2 ^ 93) ^ 11 * 2 := by rw [← Nat.pow_mul, ← Nat.pow_succ]
      _ ≤ (10 ^ 28) ^ 11 * 10 := Nat.mul_le_mul (Nat.pow_le_pow_left block 11) (by decide)
      _ = 10 ^ 309 := by rw [← Nat.pow_mul, ← Nat.pow_succ]
      _ ≤ 10 ^ exponent := Nat.pow_le_pow_right (by decide) (by omega)
  have large : 2 ^ (2045 + 53) ≤ coefficient * 10 ^ exponent * unitsInOne / 1 := by
    rw [Nat.div_one, unitsInOne_eq]
    calc 2 ^ (2045 + 53)
        = 1 * 2 ^ 1024 * 2 ^ 1074 := by rw [Nat.one_mul, ← Nat.pow_add]
      _ ≤ coefficient * 10 ^ exponent * 2 ^ 1074 :=
          Nat.mul_le_mul_right _ (Nat.mul_le_mul (Nat.one_le_iff_ne_zero.mpr nonzero) tens)
  exact le_nearest large

/-- A decimal with a far negative exponent is rounded to zero. -/
theorem nearest_eq_zero_of_far {coefficient exponent : Nat}
    (far : coefficient.log2 + 1077 ≤ 3 * exponent) : nearest coefficient (10 ^ exponent) = 0 := by
  obtain ⟨places, isPlaces, unitsAre⟩ : ∃ places, places = 1074 ∧ unitsInOne = 2 ^ places :=
    ⟨1074, rfl, unitsInOne_eq⟩
  refine nearest_eq_zero ?_
  have bits : coefficient < 2 ^ (coefficient.log2 + 1) := Nat.lt_log2_self
  calc 2 * (coefficient * unitsInOne)
      < 2 * (2 ^ (coefficient.log2 + 1) * unitsInOne) :=
        Nat.mul_lt_mul_of_pos_left (Nat.mul_lt_mul_of_pos_right bits unitsInOne_pos) (by decide)
    _ = 2 ^ (coefficient.log2 + places + 2) := by
        rw [unitsAre]
        ring
    _ ≤ 2 ^ (3 * exponent) := Nat.pow_le_pow_right (by decide) (by omega)
    _ = 8 ^ exponent := by rw [Nat.pow_mul]
    _ ≤ 10 ^ exponent := Nat.pow_le_pow_left (by decide) exponent

/-- Rounding a decimal is rounding its quotient, as far as the finite numbers go. -/
theorem toMagnitude_eq_nearest {decimal : Decimal}
    (finite : decimal.toMagnitude < infinityBits ∨
      nearest decimal.numerator decimal.denominator < infinityBits) :
    decimal.toMagnitude = nearest decimal.numerator decimal.denominator := by
  obtain ⟨coefficient, exponent⟩ := decimal
  by_cases zero : coefficient = 0
  · subst zero
    rw [toMagnitude, if_pos rfl, nearest_eq_zero]
    simpa [numerator] using denominator_pos _
  · cases exponent with
    | ofNat exponent =>
        have isQuotient : nearest (numerator ⟨coefficient, .ofNat exponent⟩)
            (denominator ⟨coefficient, .ofNat exponent⟩) =
              nearest (coefficient * 10 ^ exponent) 1 := by
          simp [numerator, denominator]
        rw [isQuotient] at finite ⊢
        simp only [toMagnitude, zero, if_false] at finite ⊢
        by_cases far : 310 < exponent
        · -- neither side would be finite
          have beyond := infinityBits_le_nearest zero far
          rw [if_pos far] at finite
          omega
        · rw [if_neg far]
          rfl
    | negSucc exponent =>
        have isQuotient : nearest (numerator ⟨coefficient, .negSucc exponent⟩)
            (denominator ⟨coefficient, .negSucc exponent⟩) =
              nearest coefficient (10 ^ (exponent + 1)) := by
          simp [numerator, denominator]
        rw [isQuotient]
        simp only [toMagnitude, zero, if_false]
        by_cases far : coefficient.log2 + 1077 ≤ 3 * (exponent + 1)
        · rw [if_pos far, nearest_eq_zero_of_far far]
        · rw [if_neg far]
          rfl

/-- Decimals of the same number have the same finite magnitude. -/
theorem toMagnitude_congr {left right : Decimal} (same : left.number = right.number)
    (finite : left.toMagnitude < infinityBits) : right.toMagnitude = left.toMagnitude := by
  have isNearest := toMagnitude_eq_nearest (.inl finite)
  have cross : left.numerator * right.denominator = right.numerator * left.denominator := by
    have leftNonzero : (left.denominator : ℚ) ≠ 0 := by
      exact_mod_cast Nat.ne_of_gt left.denominator_pos
    have rightNonzero : (right.denominator : ℚ) ≠ 0 := by
      exact_mod_cast Nat.ne_of_gt right.denominator_pos
    rw [number_eq_div, number_eq_div, div_eq_div_iff leftNonzero rightNonzero] at same
    exact_mod_cast same
  have nearestSame := nearest_congr left.denominator_pos right.denominator_pos cross
  rw [isNearest, nearestSame] at finite
  rw [isNearest, nearestSame, toMagnitude_eq_nearest (.inr finite)]

/-- Leaving zeros out does not change the number. -/
theorem number_reduced (decimal : Decimal) : decimal.reduced.number = decimal.number := by
  fun_induction reduced decimal with
  | case1 decimal trailing inductionHypothesis =>
      have split : 10 * (decimal.coefficient / 10) = decimal.coefficient :=
        Nat.mul_div_cancel' (Nat.dvd_of_mod_eq_zero trailing.2)
      have splitRat : (10 : ℚ) * (decimal.coefficient / 10 : Nat) = decimal.coefficient := by
        exact_mod_cast split
      rw [inductionHypothesis, number, number, zpow_add_one₀ (by norm_num), ← splitRat]
      ring
  | case2 decimal finished => rfl

/-- A decimal is reduced to one of the same number. -/
theorem toMagnitude_reduced {decimal : Decimal} (finite : decimal.toMagnitude < infinityBits) :
    decimal.reduced.toMagnitude = decimal.toMagnitude :=
  toMagnitude_congr (number_reduced decimal).symm finite

/-- A decimal whose number is a finite magnitude is rounded to it. -/
theorem toMagnitude_of_number_eq {decimal : Decimal} {magnitude : Nat}
    (finite : magnitude < infinityBits)
    (same : decimal.number = (units magnitude : ℚ) / unitsInOne) :
    decimal.toMagnitude = magnitude := by
  have denominatorNonzero : (decimal.denominator : ℚ) ≠ 0 := by
    exact_mod_cast Nat.ne_of_gt decimal.denominator_pos
  have unitsNonzero : (unitsInOne : ℚ) ≠ 0 := by
    exact_mod_cast Nat.ne_of_gt unitsInOne_pos
  rw [number_eq_div, div_eq_div_iff denominatorNonzero unitsNonzero] at same
  have isMagnitude : nearest decimal.numerator decimal.denominator = magnitude := by
    rw [nearest_congr decimal.denominator_pos unitsInOne_pos (by exact_mod_cast same),
      nearest_units]
  rw [toMagnitude_eq_nearest (.inr (isMagnitude.symm ▸ finite)), isMagnitude]

/-- The exact value of a magnitude is its number. -/
theorem number_ofMagnitude (magnitude : Nat) :
    (ofMagnitude magnitude).number = (units magnitude : ℚ) / unitsInOne := by
  obtain ⟨places, isPlaces, unitsAre⟩ : ∃ places, places = 1074 ∧ unitsInOne = 2 ^ places :=
    ⟨1074, rfl, unitsInOne_eq⟩
  have fives : ((units magnitude * 5 ^ places : Nat) : ℚ) * 10 ^ (-places : ℤ) =
      (units magnitude : ℚ) / (2 ^ places : Nat) := by
    have ten : (10 : ℚ) ^ places = 2 ^ places * 5 ^ places := by
      rw [← mul_pow]
      norm_num
    rw [zpow_neg, zpow_natCast, ten]
    push_cast
    field_simp
  rw [unitsAre, number, ofMagnitude]
  rw [isPlaces] at fives ⊢
  exact fives

/-- The shortest decimal of a finite magnitude is rounded to the magnitude. -/
theorem toMagnitude_shortest (rule : TieRule) {magnitude : Nat}
    (finite : magnitude < infinityBits) : (shortest rule magnitude).toMagnitude = magnitude := by
  unfold shortest
  split
  · rename_i zero
    rw [zero]
    rfl
  · dsimp only
    generalize isFound : (List.range 17).findSome? _ = found
    have readsBack : (found.getD (ofMagnitude magnitude)).toMagnitude = magnitude := by
      cases found with
      | none => exact toMagnitude_of_number_eq finite (number_ofMagnitude magnitude)
      | some decimal =>
          obtain ⟨count, -, search⟩ := List.exists_of_findSome?_eq_some isFound
          exact Shortest.reads_back search
    rw [toMagnitude_reduced (readsBack.symm ▸ finite), readsBack]

end Decimal

end BlockData
