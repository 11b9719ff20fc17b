import BlockData.Proofs.Number.Bits
import BlockData.Proofs.Number.Rounding
import Mathlib.Algebra.Order.Field.Basic
import Mathlib.Algebra.Order.Field.Rat
import Mathlib.Algebra.Order.Ring.Abs
import Mathlib.Order.Monotone.Basic
import Mathlib.Tactic.FieldSimp
import Mathlib.Tactic.Linarith
import Mathlib.Tactic.NormNum

/-!
# Nearest numbers

Magnitudes are significands of at most 54 bits at a shift (`exists_significand`,
`units_significand`), so they grow with their bit patterns (`units_strictMono`). Rounding
gives a significand that is at most half a step away from the quotient. Magnitudes with at
least its shift lie on the same grid, and those with a lesser shift are too small, so no
magnitude is nearer (`nearest_isNearest`). This makes a rounded number the nearest one of all
finite numbers, and of two equally near ones the even one (`isNearestTo_nearest`). No
quotient has two nearest numbers of one sign (`IsNearestTo.unique`), and a quotient has none
beyond half a step above the largest finite number (`nearest_lt_infinityBits_iff`).
-/

namespace BlockData.Binary64

/-- A magnitude is a significand at a shift. Only the least shift has small significands. -/
theorem exists_significand (magnitude : Nat) : ∃ shift significand,
    magnitude = shift * hiddenBit + significand ∧ significand < 2 * hiddenBit ∧
      (shift = 0 ∨ hiddenBit ≤ significand) := by
  by_cases small : magnitude < 2 * hiddenBit
  · exact ⟨0, magnitude, by omega, small, .inl rfl⟩
  · refine ⟨magnitude / hiddenBit - 1, hiddenBit + magnitude % hiddenBit, ?_, ?_, .inr ?_⟩
    · simp only [hiddenBit] at *
      omega
    · simp only [hiddenBit]
      omega
    · exact Nat.le_add_right ..

/-- The number of a significand at a shift. It may be one above the largest significand. -/
theorem units_significand {shift significand : Nat} (upper : significand ≤ 2 * hiddenBit)
    (lower : shift = 0 ∨ hiddenBit ≤ significand) :
    units (shift * hiddenBit + significand) = significand * 2 ^ shift := by
  cases shift with
  | zero =>
      rcases Nat.lt_or_eq_of_le upper with less | rfl
      · simpa using units_eq_self less
      · decide
  | succ shift =>
      have normal : hiddenBit ≤ significand := by omega
      have large : 2 * hiddenBit ≤ (shift + 1) * hiddenBit + significand := by
        simp only [hiddenBit] at *
        omega
      rw [units_eq_mul large]
      rcases Nat.lt_or_eq_of_le upper with less | rfl
      · have exponent : ((shift + 1) * hiddenBit + significand) / hiddenBit - 1 = shift + 1 := by
          simp only [hiddenBit] at *
          omega
        have stored : hiddenBit + ((shift + 1) * hiddenBit + significand) % hiddenBit =
            significand := by
          simp only [hiddenBit] at *
          omega
        rw [exponent, stored]
      · -- one above the largest significand is the least one at the next shift
        have exponent : ((shift + 1) * hiddenBit + 2 * hiddenBit) / hiddenBit - 1 = shift + 2 := by
          simp only [hiddenBit] at *
          omega
        have stored : ((shift + 1) * hiddenBit + 2 * hiddenBit) % hiddenBit = 0 := by
          simp only [hiddenBit] at *
          omega
        rw [exponent, stored, Nat.add_zero, Nat.pow_succ 2 (shift + 1)]
        ring

/-- Larger magnitudes are larger numbers. -/
theorem units_strictMono : StrictMono units := by
  refine strictMono_nat_of_lt_succ fun magnitude => ?_
  obtain ⟨shift, significand, rfl, upper, lower⟩ := exists_significand magnitude
  rw [Nat.add_assoc, units_significand (Nat.le_of_lt upper) lower,
    units_significand upper (lower.imp_right Nat.le_succ_of_le)]
  exact Nat.mul_lt_mul_of_pos_right (Nat.lt_succ_self _) (Nat.two_pow_pos shift)

/-- Rounding is at most to the neighbour above. -/
theorem roundQuotient_le (numerator denominator : Nat) :
    roundQuotient numerator denominator ≤ numerator / denominator + 1 := by
  simp only [roundQuotient]
  split <;> omega

/-- A rounded quotient is at most a half away, and even if it is a half away. -/
theorem abs_sub_roundQuotient (numerator : Nat) {denominator : Nat} (positive : 0 < denominator) :
    |(numerator : ℚ) / denominator - roundQuotient numerator denominator| ≤ 1 / 2 ∧
      (|(numerator : ℚ) / denominator - roundQuotient numerator denominator| = 1 / 2 →
        roundQuotient numerator denominator % 2 = 0) := by
  have positiveRat : (0 : ℚ) < denominator := by exact_mod_cast positive
  have split : denominator * (numerator / denominator) + numerator % denominator = numerator :=
    Nat.div_add_mod numerator denominator
  have remainder : numerator % denominator < denominator := Nat.mod_lt _ positive
  generalize isBelow : numerator / denominator = below at split
  generalize isRest : numerator % denominator = rest at split remainder
  have quotient : (numerator : ℚ) / denominator = below + rest / denominator := by
    rw [← split]
    push_cast
    field_simp
  have fraction : 0 ≤ (rest : ℚ) / denominator :=
    div_nonneg (Nat.cast_nonneg rest) (le_of_lt positiveRat)
  have part : ∀ {bound : ℚ}, (rest : ℚ) / denominator ≤ bound ↔ rest ≤ bound * denominator :=
    div_le_iff₀ positiveRat
  simp only [roundQuotient, isBelow, isRest, quotient]
  split
  · rename_i low
    have small : 2 * rest ≤ denominator := by omega
    rw [add_sub_cancel_left, abs_of_nonneg fraction]
    constructor
    · rw [part]
      have : (2 * rest : ℚ) ≤ denominator := by exact_mod_cast small
      linarith
    · intro half
      rw [div_eq_iff (ne_of_gt positiveRat)] at half
      have tie : 2 * rest = denominator := by
        have : (2 * rest : ℚ) = denominator := by linarith
        exact_mod_cast this
      omega
  · rename_i high
    have large : denominator ≤ 2 * rest := by omega
    have less : (rest : ℚ) / denominator < 1 := by
      rw [div_lt_one positiveRat]
      exact_mod_cast remainder
    have distance : (below : ℚ) + rest / denominator - (below + 1 : Nat) =
        -(1 - rest / denominator) := by
      push_cast
      ring
    rw [distance, abs_neg, abs_of_pos (sub_pos.mpr less)]
    have half : (1 : ℚ) / 2 ≤ rest / denominator := by
      rw [le_div_iff₀ positiveRat]
      have : (denominator : ℚ) ≤ 2 * rest := by exact_mod_cast large
      linarith
    constructor
    · linarith
    · intro isHalf
      have tie : (rest : ℚ) / denominator = 1 / 2 := by linarith
      rw [div_eq_iff (ne_of_gt positiveRat)] at tie
      have twice : 2 * rest = denominator := by
        have : (2 * rest : ℚ) = denominator := by linarith
        exact_mod_cast this
      omega

/-- On a grid, a place is no nearer to another point than to one that is at most half a step
away, and only as near if that one is half a step away. -/
theorem abs_sub_le_of_grid {place step : ℚ} {point other : Nat}
    (near : |place - point * step| ≤ step / 2) (different : other ≠ point) :
    |place - point * step| ≤ |place - other * step| ∧
      (|place - other * step| = |place - point * step| →
        |place - point * step| = step / 2) := by
  have nonnegative : 0 ≤ step := by
    have := abs_nonneg (place - point * step)
    linarith
  have apart : step ≤ |(point : ℚ) * step - other * step| := by
    have distinct : (1 : ℚ) ≤ |(point : ℚ) - other| := by
      have integers : (1 : ℤ) ≤ |(point : ℤ) - other| := Int.one_le_abs (by omega)
      exact_mod_cast integers
    rw [← sub_mul, abs_mul, abs_of_nonneg nonnegative]
    exact le_mul_of_one_le_left nonnegative distinct
  have triangle : |(point : ℚ) * step - other * step| ≤
      |place - point * step| + |place - other * step| := by
    rw [abs_sub_comm place]
    exact abs_sub_le ..
  constructor
  · linarith
  · intro tie
    linarith

/-- A significand at a shift is the rounded one of a place, which is measured in the smallest
positive number: it is at most half a step away, and even if it is half a step away. Only the
least shift is taken for places that do not fill a significand. -/
structure IsRounded (place : ℚ) (shift significand : Nat) : Prop where
  upper : significand ≤ 2 * hiddenBit
  lower : shift = 0 ∨ hiddenBit ≤ significand
  filled : shift = 0 ∨ hiddenBit * 2 ^ shift ≤ place
  near : |place - significand * 2 ^ shift| ≤ 2 ^ shift / 2
  even : |place - significand * 2 ^ shift| = 2 ^ shift / 2 → significand % 2 = 0

namespace IsRounded

variable {place : ℚ} {shift significand : Nat}

/-- Significands at larger shifts lie on the same grid. They are no nearer, and only as near
if the place is half a step away. -/
theorem le_of_coarse (rounded : IsRounded place shift significand) {otherShift other : Nat}
    (coarse : shift ≤ otherShift) (different : other * 2 ^ otherShift ≠ significand * 2 ^ shift) :
    |place - significand * 2 ^ shift| ≤ |place - other * 2 ^ otherShift| ∧
      (|place - other * 2 ^ otherShift| = |place - significand * 2 ^ shift| →
        significand % 2 = 0) := by
  have onGrid : other * 2 ^ otherShift = other * 2 ^ (otherShift - shift) * 2 ^ shift := by
    rw [Nat.mul_assoc, ← Nat.pow_add, Nat.sub_add_cancel coarse]
  have onGridRat : (other * 2 ^ otherShift : ℚ) =
      (other * 2 ^ (otherShift - shift) : Nat) * 2 ^ shift := by exact_mod_cast onGrid
  have differentPoint : other * 2 ^ (otherShift - shift) ≠ significand := by
    rintro rfl
    exact different onGrid
  obtain ⟨nearest, tie⟩ := abs_sub_le_of_grid rounded.near differentPoint
  rw [onGridRat]
  exact ⟨nearest, fun same => rounded.even (tie same)⟩

/-- Significands at lesser shifts are below the least one of the grid, so they are farther. -/
theorem lt_of_fine (rounded : IsRounded place shift significand) {otherShift other : Nat}
    (fine : otherShift < shift) (small : other < 2 * hiddenBit) :
    |place - significand * 2 ^ shift| < |place - other * 2 ^ otherShift| := by
  have shifted : shift ≠ 0 := by omega
  have reached := rounded.filled.resolve_left shifted
  have smaller : other * 2 ^ otherShift < hiddenBit * 2 ^ shift := by
    calc other * 2 ^ otherShift
        < 2 * hiddenBit * 2 ^ otherShift :=
          Nat.mul_lt_mul_of_pos_right small (Nat.two_pow_pos _)
      _ = hiddenBit * 2 ^ (otherShift + 1) := by ring
      _ ≤ hiddenBit * 2 ^ shift :=
          Nat.mul_le_mul_left _ (Nat.pow_le_pow_right (by decide) (by omega))
  have smallerRat : (other * 2 ^ otherShift : ℚ) < hiddenBit * 2 ^ shift := by
    exact_mod_cast smaller
  have leastNear : |place - significand * 2 ^ shift| ≤ |place - hiddenBit * 2 ^ shift| := by
    by_cases same : hiddenBit = significand
    · rw [same]
    · exact (abs_sub_le_of_grid rounded.near same).1
  rw [abs_of_nonneg (sub_nonneg.mpr reached)] at leastNear
  calc |place - significand * 2 ^ shift|
      ≤ place - hiddenBit * 2 ^ shift := leastNear
    _ < place - other * 2 ^ otherShift := sub_lt_sub_left smallerRat place
    _ ≤ |place - other * 2 ^ otherShift| := le_abs_self _

end IsRounded

/-- The nearest magnitude of a quotient is a rounded significand. The step of its shift
divides the quotient into so many parts that they fill a significand. -/
theorem exists_nearest_eq (numerator : Nat) {denominator : Nat} (positive : 0 < denominator) :
    ∃ shift, nearest numerator denominator = shift * hiddenBit +
        roundQuotient (numerator * unitsInOne) (denominator * 2 ^ shift) ∧
      roundQuotient (numerator * unitsInOne) (denominator * 2 ^ shift) ≤ 2 * hiddenBit ∧
      (shift = 0 ∨
        hiddenBit ≤ roundQuotient (numerator * unitsInOne) (denominator * 2 ^ shift) ∧
        hiddenBit * 2 ^ shift * denominator ≤ numerator * unitsInOne) := by
  generalize isWhole : numerator * unitsInOne / denominator = whole
  have quotient : ∀ shift, numerator * unitsInOne / (denominator * 2 ^ shift) =
      whole / 2 ^ shift := fun shift => by rw [← Nat.div_div_eq_div_mul, isWhole]
  by_cases small : whole < 2 * hiddenBit
  · refine ⟨0, ?_, ?_, .inl rfl⟩
    · simp only [nearest, isWhole, if_pos small, Nat.shiftLeft_eq]
    · have rounded := roundQuotient_le (numerator * unitsInOne) (denominator * 2 ^ 0)
      rw [quotient, Nat.pow_zero, Nat.div_one] at rounded
      rw [Nat.pow_zero]
      omega
  · have nonzero : whole ≠ 0 := by
      simp only [hiddenBit] at small
      omega
    have bits : 52 ≤ whole.log2 := by
      refine (Nat.le_log2 nonzero).mpr ?_
      rw [← hiddenBit_eq]
      omega
    obtain ⟨shift, isShift⟩ : ∃ shift, whole.log2 = 52 + shift := ⟨whole.log2 - 52, by omega⟩
    obtain ⟨above, below⟩ := (Nat.log2_eq_iff nonzero).mp isShift
    have filled : hiddenBit * 2 ^ shift ≤ whole := by rwa [hiddenBit_eq, ← Nat.pow_add]
    have fits : whole < 2 * hiddenBit * 2 ^ shift := by
      calc whole
          < 2 ^ (52 + shift + 1) := below
        _ = 2 * hiddenBit * 2 ^ shift := by
            rw [hiddenBit_eq]
            ring
    have least : hiddenBit ≤ whole / 2 ^ shift :=
      (Nat.le_div_iff_mul_le (Nat.two_pow_pos shift)).mpr filled
    have most : whole / 2 ^ shift < 2 * hiddenBit :=
      (Nat.div_lt_iff_lt_mul (Nat.two_pow_pos shift)).mpr fits
    have lower := div_le_roundQuotient (numerator * unitsInOne) (denominator * 2 ^ shift)
    have upper := roundQuotient_le (numerator * unitsInOne) (denominator * 2 ^ shift)
    rw [quotient] at lower upper
    refine ⟨shift, ?_, by omega, .inr ⟨by omega, ?_⟩⟩
    · simp only [nearest, isWhole, if_neg small, isShift, Nat.add_sub_cancel_left,
        Nat.shiftLeft_eq]
    · exact (Nat.le_div_iff_mul_le positive).mp (isWhole.symm ▸ filled)

/-- The nearest magnitude of a quotient is its rounded significand at a shift. -/
theorem exists_isRounded (numerator : Nat) {denominator : Nat} (positive : 0 < denominator) :
    ∃ shift significand, nearest numerator denominator = shift * hiddenBit + significand ∧
      IsRounded (numerator * unitsInOne / denominator) shift significand := by
  obtain ⟨shift, isNearest, upper, lower⟩ := exists_nearest_eq numerator positive
  obtain ⟨near, even⟩ := abs_sub_roundQuotient (numerator * unitsInOne)
    (Nat.mul_pos positive (Nat.two_pow_pos shift))
  generalize roundQuotient (numerator * unitsInOne) (denominator * 2 ^ shift) = significand
    at isNearest upper lower near even
  have stepPositive : (0 : ℚ) < 2 ^ shift := by positivity
  have distance : |(numerator * unitsInOne / denominator : ℚ) - significand * 2 ^ shift| =
      |((numerator * unitsInOne : Nat) : ℚ) / (denominator * 2 ^ shift : Nat) - significand| *
        2 ^ shift := by
    conv => rhs; rw [← abs_of_pos stepPositive, ← abs_mul, sub_mul]
    push_cast
    rw [← div_div, div_mul_cancel₀ _ (ne_of_gt stepPositive)]
  refine ⟨shift, significand, isNearest, upper, lower.imp_right And.left, ?_, ?_, ?_⟩
  · refine lower.imp_right fun ⟨_, filled⟩ => ?_
    rw [le_div_iff₀ (by exact_mod_cast positive)]
    exact_mod_cast filled
  · rw [distance]
    calc _ ≤ 1 / 2 * (2 : ℚ) ^ shift := mul_le_mul_of_nonneg_right near (le_of_lt stepPositive)
      _ = 2 ^ shift / 2 := by ring
  · intro half
    have scaled : (2 : ℚ) ^ shift / 2 = 1 / 2 * 2 ^ shift := by ring
    rw [distance, scaled] at half
    exact even (mul_right_cancel₀ (ne_of_gt stepPositive) half)

/-- No other magnitude is nearer to a quotient than the one that it is rounded to, and one
that is as near leaves this one even. -/
theorem nearest_isNearest {numerator denominator other : Nat} (positive : 0 < denominator)
    (different : other ≠ nearest numerator denominator) :
    |(numerator * unitsInOne / denominator : ℚ) - units (nearest numerator denominator)| ≤
        |(numerator * unitsInOne / denominator : ℚ) - units other| ∧
      (|(numerator * unitsInOne / denominator : ℚ) - units other| =
          |(numerator * unitsInOne / denominator : ℚ) - units (nearest numerator denominator)| →
        nearest numerator denominator % 2 = 0) := by
  obtain ⟨shift, significand, isNearest, rounded⟩ := exists_isRounded numerator positive
  obtain ⟨otherShift, otherSignificand, isOther, small, otherLower⟩ := exists_significand other
  have differentUnits : units other ≠ units (nearest numerator denominator) :=
    fun same => different (units_strictMono.injective same)
  have parity : (shift * hiddenBit + significand) % 2 = significand % 2 := by
    simp only [hiddenBit]
    omega
  rw [isNearest, isOther, units_significand rounded.upper rounded.lower,
    units_significand (Nat.le_of_lt small) otherLower] at differentUnits ⊢
  rw [parity]
  push_cast
  rcases Nat.lt_or_ge otherShift shift with fine | coarse
  · have farther := rounded.lt_of_fine fine small
    exact ⟨le_of_lt farther, fun tie => absurd tie (ne_of_gt farther)⟩
  · exact rounded.le_of_coarse coarse differentUnits

/-- The number of a magnitude. -/
def magnitudeNumber (magnitude : Nat) : ℚ :=
  units magnitude / unitsInOne

/-- The factor that a sign stands for. -/
def signFactor (negative : Bool) : ℚ :=
  if negative then -1 else 1

/-- The number of a finite bit pattern. -/
def toRat (number : Binary64) : ℚ :=
  signFactor number.isNegative * magnitudeNumber number.magnitude

/-- No finite number is nearer to an exact one, and if another one is as near, the bit pattern
is even. -/
structure IsNearestTo (number : Binary64) (exact : ℚ) : Prop where
  finite : number.isFinite = true
  nearest : ∀ other : Binary64, other.isFinite = true →
    |exact - number.toRat| ≤ |exact - other.toRat|
  even : ∀ other : Binary64, other.isFinite = true → other.toRat ≠ number.toRat →
    |exact - other.toRat| = |exact - number.toRat| → number.magnitude % 2 = 0

theorem unitsInOne_pos_rat : (0 : ℚ) < unitsInOne := by
  exact_mod_cast unitsInOne_pos

theorem magnitudeNumber_nonneg (magnitude : Nat) : 0 ≤ magnitudeNumber magnitude :=
  div_nonneg (Nat.cast_nonneg _) (le_of_lt unitsInOne_pos_rat)

/-- Larger magnitudes are larger numbers. -/
theorem magnitudeNumber_strictMono : StrictMono magnitudeNumber := by
  intro lower upper less
  have units : (units lower : ℚ) < units upper := by exact_mod_cast units_strictMono less
  exact div_lt_div_of_pos_right units unitsInOne_pos_rat

/-- A sign moves over to the other side of a distance. -/
theorem abs_sub_signFactor (negative : Bool) (exact number : ℚ) :
    |exact - signFactor negative * number| = |signFactor negative * exact - number| := by
  cases negative with
  | false => simp [signFactor]
  | true =>
      have swapped : exact - -1 * number = -(-1 * exact - number) := by ring
      simp only [signFactor, if_true]
      rw [swapped, abs_neg]

/-- A sign has no effect twice. -/
theorem signFactor_mul_self (negative : Bool) (number : ℚ) :
    signFactor negative * (signFactor negative * number) = number := by
  cases negative <;> simp [signFactor]

/-- Numbers of different signs are as far apart as their sum. -/
theorem abs_sub_of_opposite (sign : Bool) {number other : ℚ} (nonneg : 0 ≤ number)
    (otherNonneg : 0 ≤ other) :
    |signFactor sign * number - signFactor (!sign) * other| = number + other := by
  rw [← abs_of_nonneg (add_nonneg nonneg otherNonneg)]
  cases sign with
  | false =>
      have sum : (1 : ℚ) * number - -1 * other = number + other := by ring
      exact congrArg _ sum
  | true =>
      have sum : (-1 : ℚ) * number - 1 * other = -(number + other) := by ring
      exact (congrArg _ sum).trans (abs_neg _)

/-- The distance of two numbers is least if they have the same sign. -/
theorem abs_sub_le_of_signs (sign otherSign : Bool) {number other : ℚ} (nonneg : 0 ≤ number)
    (otherNonneg : 0 ≤ other) :
    |number - other| ≤ |signFactor sign * number - signFactor otherSign * other| := by
  by_cases same : otherSign = sign
  · rw [same, abs_sub_signFactor, signFactor_mul_self]
  · have opposite : otherSign = !sign := Bool.eq_not.mpr same
    rw [opposite, abs_sub_of_opposite sign nonneg otherNonneg]
    exact abs_le.mpr ⟨by linarith, by linarith⟩

/-- Only zero is as far from another number as their sum. -/
theorem eq_zero_or_eq_zero_of_abs_sub {number other : ℚ}
    (apart : number + other = |number - other|) : number = 0 ∨ other = 0 := by
  rcases abs_cases (number - other) with ⟨isAbs, _⟩ | ⟨isAbs, _⟩
  · exact .inr (by linarith)
  · exact .inl (by linarith)

/-- Only the magnitude zero is the number zero. -/
theorem magnitudeNumber_eq_zero {magnitude : Nat} (isZero : magnitudeNumber magnitude = 0) :
    magnitude = 0 := by
  have zero : magnitudeNumber 0 = 0 := by simp [magnitudeNumber, units]
  exact magnitudeNumber_strictMono.injective (isZero.trans zero.symm)

/-- The distance of a quotient from a magnitude, measured in the smallest positive number. -/
theorem abs_sub_magnitudeNumber (numerator denominator magnitude : Nat) :
    |(numerator / denominator : ℚ) - magnitudeNumber magnitude| =
      |(numerator * unitsInOne / denominator : ℚ) - units magnitude| / unitsInOne := by
  rw [← abs_of_pos unitsInOne_pos_rat, ← abs_div, sub_div, abs_of_pos unitsInOne_pos_rat,
    mul_div_right_comm, mul_div_cancel_right₀ _ (ne_of_gt unitsInOne_pos_rat), magnitudeNumber]

/-- The nearest magnitude of a quotient is the nearest one as a number. -/
theorem nearest_isNearestNumber {numerator denominator other : Nat} (positive : 0 < denominator)
    (different : other ≠ nearest numerator denominator) :
    |(numerator / denominator : ℚ) - magnitudeNumber (nearest numerator denominator)| ≤
        |(numerator / denominator : ℚ) - magnitudeNumber other| ∧
      (|(numerator / denominator : ℚ) - magnitudeNumber other| =
          |(numerator / denominator : ℚ) - magnitudeNumber (nearest numerator denominator)| →
        nearest numerator denominator % 2 = 0) := by
  obtain ⟨isNearest, even⟩ := nearest_isNearest positive different
  simp only [abs_sub_magnitudeNumber, div_le_div_iff_of_pos_right unitsInOne_pos_rat,
    div_left_inj' (ne_of_gt unitsInOne_pos_rat)]
  exact ⟨isNearest, even⟩

/-- The number of a sign and a small magnitude. -/
theorem toRat_ofMagnitude {negative : Bool} {magnitude : Nat} (small : magnitude < signBit) :
    (ofMagnitude negative magnitude).toRat = signFactor negative * magnitudeNumber magnitude := by
  rw [toRat, isNegative_ofMagnitude small, magnitude_ofMagnitude small]

/-- Rounding the magnitude and keeping the sign gives the nearest finite number. -/
theorem isNearestTo_nearest (negative : Bool) {numerator denominator : Nat}
    (positive : 0 < denominator) (finite : nearest numerator denominator < infinityBits) :
    (ofMagnitude negative (nearest numerator denominator)).IsNearestTo
      (signFactor negative * (numerator / denominator)) := by
  have small := lt_signBit finite
  have nonneg : (0 : ℚ) ≤ numerator / denominator :=
    div_nonneg (Nat.cast_nonneg _) (Nat.cast_nonneg _)
  have own : |signFactor negative * (numerator / denominator : ℚ) -
        (ofMagnitude negative (nearest numerator denominator)).toRat| =
      |(numerator / denominator : ℚ) - magnitudeNumber (nearest numerator denominator)| := by
    rw [toRat_ofMagnitude small, abs_sub_signFactor, signFactor_mul_self]
  have signed : ∀ other : Binary64,
      |(numerator / denominator : ℚ) - magnitudeNumber other.magnitude| ≤
        |signFactor negative * (numerator / denominator : ℚ) - other.toRat| :=
    fun other => abs_sub_le_of_signs _ _ nonneg (magnitudeNumber_nonneg _)
  refine ⟨isFinite_ofMagnitude finite, fun other _ => ?_, fun other _ different tie => ?_⟩
  · rw [own]
    refine le_trans ?_ (signed other)
    by_cases same : other.magnitude = nearest numerator denominator
    · rw [same]
    · exact (nearest_isNearestNumber positive same).1
  · rw [magnitude_ofMagnitude small]
    rw [own] at tie
    by_cases same : other.magnitude = nearest numerator denominator
    · -- only the signs differ, so the quotient is zero, and so is its nearest number
      have opposite : other.isNegative = !negative := by
        refine Bool.eq_not.mpr fun sameSign => different ?_
        rw [toRat_ofMagnitude small, toRat, same, sameSign]
      rw [toRat, opposite, same,
        abs_sub_of_opposite negative nonneg (magnitudeNumber_nonneg _)] at tie
      have isZero : nearest numerator denominator = 0 := by
        rcases eq_zero_or_eq_zero_of_abs_sub tie with noQuotient | noNumber
        · have nonzero : (denominator : ℚ) ≠ 0 := by exact_mod_cast Nat.ne_of_gt positive
          have noNumerator : numerator = 0 := by
            exact_mod_cast (div_eq_zero_iff.mp noQuotient).resolve_right nonzero
          exact nearest_eq_zero (by simpa [noNumerator] using positive)
        · exact magnitudeNumber_eq_zero noNumber
      rw [isZero]
    · obtain ⟨isNearest, even⟩ := nearest_isNearestNumber positive same
      exact even (le_antisymm (tie ▸ signed other) isNearest)

/-- An exact number has at most one nearest number of each sign. -/
theorem IsNearestTo.unique {first second : Binary64} {exact : ℚ}
    (isFirst : first.IsNearestTo exact) (isSecond : second.IsNearestTo exact)
    (sameSign : first.isNegative = second.isNegative) : first = second := by
  by_contra different
  wlog less : first.magnitude < second.magnitude generalizing first second
  · refine this isSecond isFirst sameSign.symm (Ne.symm different) ?_
    refine Nat.lt_of_le_of_ne (Nat.le_of_not_lt less) fun same => different ?_
    rw [← ofMagnitude_magnitude first, ← ofMagnitude_magnitude second, sameSign, same]
  have secondFinite : second.magnitude < infinityBits := of_decide_eq_true isSecond.finite
  have tie : |exact - first.toRat| = |exact - second.toRat| :=
    le_antisymm (isFirst.nearest second isSecond.finite) (isSecond.nearest first isFirst.finite)
  have distinct : first.toRat ≠ second.toRat := by
    intro same
    rw [toRat, toRat, ← sameSign] at same
    have sameNumber := congrArg (signFactor first.isNegative * ·) same
    simp only [signFactor_mul_self] at sameNumber
    exact ne_of_lt (magnitudeNumber_strictMono less) sameNumber
  have firstEven := isFirst.even second isSecond.finite distinct.symm tie.symm
  have secondEven := isSecond.even first isFirst.finite distinct tie
  -- the odd magnitude above the lesser one lies between them, so it is nearer than both
  have between : first.magnitude + 1 < second.magnitude := by omega
  have betweenFinite : first.magnitude + 1 < infinityBits := by omega
  have nearer := isFirst.nearest (ofMagnitude first.isNegative (first.magnitude + 1))
    (isFinite_ofMagnitude betweenFinite)
  rw [toRat_ofMagnitude (lt_signBit betweenFinite), toRat] at nearer
  rw [toRat, toRat, ← sameSign] at tie
  simp only [abs_sub_signFactor] at nearer tie
  have lower := magnitudeNumber_strictMono (Nat.lt_succ_self first.magnitude)
  have upper := magnitudeNumber_strictMono between
  generalize signFactor first.isNegative * exact = place at nearer tie
  generalize magnitudeNumber first.magnitude = firstNumber at *
  generalize magnitudeNumber second.magnitude = secondNumber at *
  rcases abs_eq_abs.mp tie with same | middle
  · linarith
  · have above : 0 < place - firstNumber := by linarith
    rw [abs_of_pos above] at nearer
    rcases abs_cases (place - magnitudeNumber (first.magnitude + 1)) with
      ⟨isAbs, _⟩ | ⟨isAbs, _⟩ <;> linarith

/-- Half a step above the largest finite number. -/
def overflowBound : ℚ :=
  (2 ^ 54 - 1) * 2 ^ 970

/-- The bound lies in the middle between the largest finite number and the one that would be
next. -/
theorem overflowBound_eq : overflowBound =
    (magnitudeNumber (infinityBits - 1) + magnitudeNumber infinityBits) / 2 := by
  have lower : hiddenBit ≤ 2 * hiddenBit - 1 := by decide
  have next : units (2045 * hiddenBit + 2 * hiddenBit) = 2 * hiddenBit * 2 ^ 2045 :=
    units_significand (Nat.le_refl _) (.inr (by omega))
  have largest : units (2045 * hiddenBit + (2 * hiddenBit - 1)) =
      (2 * hiddenBit - 1) * 2 ^ 2045 :=
    units_significand (Nat.sub_le _ _) (.inr lower)
  have isNext : infinityBits = 2045 * hiddenBit + 2 * hiddenBit := by decide
  have isLargest : infinityBits - 1 = 2045 * hiddenBit + (2 * hiddenBit - 1) := by decide
  have powers : ∀ scale unit : ℕ, (2 : ℚ) ^ (scale + 1 + unit) = 2 ^ scale * 2 * 2 ^ unit :=
    fun scale unit => by rw [pow_add, pow_succ]
  have power : (2 : ℚ) ^ 2045 = 2 ^ 970 * 2 * 2 ^ 1074 := powers 970 1074
  have positive : (0 : ℚ) < 2 ^ 1074 := pow_pos (by norm_num) _
  have significand : ((2 * hiddenBit - 1 : Nat) : ℚ) = 2 ^ 53 - 1 := by
    norm_num [hiddenBit]
  have bit : (hiddenBit : ℚ) = 2 ^ 52 := by norm_num [hiddenBit]
  rw [magnitudeNumber, magnitudeNumber, isLargest, isNext, largest, next, unitsInOne_eq,
    overflowBound]
  simp only [Nat.cast_mul, Nat.cast_pow, Nat.cast_ofNat]
  rw [power, significand, bit]
  generalize (2 : ℚ) ^ 1074 = unit at positive ⊢
  generalize (2 : ℚ) ^ 970 = scale
  field_simp
  ring

/-- A quotient is rounded to a finite number if and only if it is less than half a step above
the largest one. -/
theorem nearest_lt_infinityBits_iff (numerator : Nat) {denominator : Nat}
    (positive : 0 < denominator) :
    nearest numerator denominator < infinityBits ↔
      (numerator / denominator : ℚ) < overflowBound := by
  have step := magnitudeNumber_strictMono (show infinityBits - 1 < infinityBits by decide)
  rw [overflowBound_eq]
  constructor
  · intro finite
    by_contra beyond
    obtain ⟨isNearest, even⟩ := nearest_isNearestNumber positive (Nat.ne_of_gt finite)
    have atMost : magnitudeNumber (nearest numerator denominator) ≤
        magnitudeNumber (infinityBits - 1) :=
      magnitudeNumber_strictMono.monotone (Nat.le_sub_one_of_lt finite)
    have below : |(numerator / denominator : ℚ) -
          magnitudeNumber (nearest numerator denominator)| =
        numerator / denominator - magnitudeNumber (nearest numerator denominator) :=
      abs_of_nonneg (by linarith)
    rw [below] at isNearest even
    -- the quotient is as near to the next number, and the largest finite one is odd
    have tie : |(numerator / denominator : ℚ) - magnitudeNumber infinityBits| =
        numerator / denominator - magnitudeNumber (nearest numerator denominator) ∧
        magnitudeNumber (nearest numerator denominator) = magnitudeNumber (infinityBits - 1) := by
      rcases abs_cases ((numerator / denominator : ℚ) - magnitudeNumber infinityBits) with
        ⟨isAbs, _⟩ | ⟨isAbs, _⟩
      · linarith
      · exact ⟨by linarith, by linarith⟩
    have isEven := even tie.1
    rw [magnitudeNumber_strictMono.injective tie.2] at isEven
    exact absurd isEven (by decide)
  · intro below
    by_contra infinite
    have different : infinityBits - 1 ≠ nearest numerator denominator := by
      have : 0 < infinityBits := by decide
      omega
    have isNearest := (nearest_isNearestNumber positive different).1
    have atLeast : magnitudeNumber infinityBits ≤
        magnitudeNumber (nearest numerator denominator) :=
      magnitudeNumber_strictMono.monotone (Nat.le_of_not_lt infinite)
    rcases abs_cases ((numerator / denominator : ℚ) -
        magnitudeNumber (nearest numerator denominator)) with ⟨isAbs, _⟩ | ⟨isAbs, _⟩ <;>
      rcases abs_cases ((numerator / denominator : ℚ) - magnitudeNumber (infinityBits - 1)) with
        ⟨isOther, _⟩ | ⟨isOther, _⟩ <;>
      linarith

end BlockData.Binary64
