/-!
# Binary64 numbers

The IEEE 754 binary64 format as bit patterns, in exact natural arithmetic. A
finite magnitude is a multiple of the smallest positive one, `2 ^ -1074`, so
`units` places every magnitude on one integer scale and `nearest` rounds a
quotient to that scale. The magnitude bits are ordered as the magnitudes are,
and they follow `shift * hiddenBit + significand` on both sides of the normal
range, which makes encoding a rounded significand one addition.
-/

namespace BlockData

/-- A binary64 number, given by its bit pattern. -/
structure Binary64 where
  bits : UInt64
deriving DecidableEq, Repr

namespace Binary64

/-- The bit of the sign, `2 ^ 63`. -/
def signBit : Nat :=
  0x8000000000000000

/-- The bit above those of the stored significand, `2 ^ 52`. Normal numbers have
it without storing it. -/
def hiddenBit : Nat :=
  0x10000000000000

/-- The bit pattern of the positive infinity: all exponent bits. -/
def infinityBits : Nat :=
  2047 * hiddenBit

/-- How many of the smallest positive magnitude make one, `2 ^ 1074`. -/
def unitsInOne : Nat :=
  1 <<< 1074

/-- The bit pattern without its sign. -/
def magnitude (number : Binary64) : Nat :=
  number.bits.toNat % signBit

/-- Whether the sign bit is set. -/
def isNegative (number : Binary64) : Bool :=
  decide (signBit ≤ number.bits.toNat)

/-- Whether the number is finite. -/
def isFinite (number : Binary64) : Bool :=
  decide (number.magnitude < infinityBits)

/-- Whether the bit pattern is no number. -/
def isNaN (number : Binary64) : Bool :=
  decide (infinityBits < number.magnitude)

/-- The number of a sign and a magnitude. -/
def ofMagnitude (negative : Bool) (magnitude : Nat) : Binary64 :=
  ⟨UInt64.ofNat ((if negative then signBit else 0) + magnitude)⟩

/-- Equality of numbers: NaN equals nothing, and the two zeros are equal. -/
def sameNumber (left right : Binary64) : Bool :=
  !left.isNaN && !right.isNaN &&
    (left.bits == right.bits || (left.magnitude == 0 && right.magnitude == 0))

/-- A finite magnitude as a multiple of `2 ^ -1074`. -/
def units (magnitude : Nat) : Nat :=
  if magnitude < hiddenBit then magnitude
  else (hiddenBit + magnitude % hiddenBit) <<< (magnitude / hiddenBit - 1)

/-- The integer nearest to a quotient; of two equally near ones the even one. -/
def roundQuotient (numerator denominator : Nat) : Nat :=
  let below := numerator / denominator
  let twice := 2 * (numerator % denominator)
  if twice < denominator ∨ (twice = denominator ∧ below % 2 = 0) then below else below + 1

/-- The magnitude nearest to a quotient; of two equally near ones the one with
the even significand. A magnitude from `infinityBits` on means that the quotient
is beyond the finite numbers. -/
def nearest (numerator denominator : Nat) : Nat :=
  let scaled := numerator * unitsInOne
  let whole := scaled / denominator
  let shift := if whole < 2 * hiddenBit then 0 else whole.log2 - 52
  shift * hiddenBit + roundQuotient scaled (denominator <<< shift)

end Binary64

end BlockData
