import BlockData.Number.Binary64

/-!
# Decimal numbers

A decimal number is a coefficient and a power of ten. Digits are read with
`digitsValue`, and `toMagnitude` rounds a decimal to binary64 exactly: the two
early answers for far exponents are what the exact rounding would give, without
its large powers.
-/

namespace BlockData

/-- The number `coefficient * 10 ^ exponent`. -/
structure Decimal where
  coefficient : Nat
  exponent : Int
deriving DecidableEq, Repr

/-- The value of one digit of a base up to sixteen. -/
def digitValue (c : Char) : Nat :=
  if c.isDigit then c.toNat - '0'.toNat
  else if c.isUpper then c.toNat - 'A'.toNat + 10
  else c.toNat - 'a'.toNat + 10

/-- The value of digits of a base, the most significant digit first. -/
def digitsValue (base : Nat) (digits : List Char) : Nat :=
  digits.foldl (fun value digit => base * value + digitValue digit) 0

namespace Decimal

/-- The binary64 magnitude nearest to a decimal. -/
def toMagnitude (number : Decimal) : Nat :=
  if number.coefficient = 0 then 0
  else match number.exponent with
    | .ofNat exponent =>
        if 310 < exponent then Binary64.infinityBits
        else Binary64.nearest (number.coefficient * Nat.pow 10 exponent) 1
    | .negSucc exponent =>
        if number.coefficient.log2 + 1077 ≤ 3 * (exponent + 1) then 0
        else Binary64.nearest number.coefficient (Nat.pow 10 (exponent + 1))

/-- The same number with no zero at the end of its coefficient. -/
def reduced (number : Decimal) : Decimal :=
  if number.coefficient ≠ 0 ∧ number.coefficient % 10 = 0 then
    reduced ⟨number.coefficient / 10, number.exponent + 1⟩
  else number
termination_by number.coefficient

/-- The decimal digits of the coefficient. -/
def digits (number : Decimal) : List Char :=
  Nat.toDigits 10 number.coefficient

/-- How many digits stand before the decimal point in positional notation. It is
not positive when zeros follow the point. -/
def pointPlace (number : Decimal) : Int :=
  number.digits.length + number.exponent

end Decimal

end BlockData
