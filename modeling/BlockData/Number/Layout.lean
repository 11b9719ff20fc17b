import BlockData.Number.Shortest

/-!
# Layouts of numbers

How a binary64 number is written. `Decimal.positional` and `Decimal.scientific`
lay out the digits of a decimal; a `NumberLayout` says which of the two serves
which sizes. `Binary64.plainText` never uses an exponent and always shows a
decimal point, so the text of a finite number is itself a float literal.
-/

namespace BlockData

namespace Decimal

/-- Digits with a decimal point and at least one digit on both sides of it. -/
def positional (number : Decimal) : String :=
  let digits := number.digits
  let place := number.pointPlace
  if place ≤ 0 then
    String.ofList ('0' :: '.' :: (List.replicate (-place).toNat '0' ++ digits))
  else if digits.length ≤ place.toNat then
    String.ofList (digits ++ List.replicate (place.toNat - digits.length) '0' ++ ['.', '0'])
  else
    String.ofList (digits.take place.toNat ++ '.' :: digits.drop place.toNat)

/-- One digit, the others behind a point, and the power of ten. An exponent that
is not negative shows a plus sign only if `signed`. -/
def scientific (signed : Bool) (number : Decimal) : String :=
  let mantissa : List Char := match number.digits with
    | first :: second :: rest => first :: '.' :: second :: rest
    | digits => digits
  let exponent := number.pointPlace - 1
  let mark := if signed && decide (0 ≤ exponent) then "e+" else "e"
  String.ofList mantissa ++ mark ++ toString exponent

end Decimal

/-- How the shortest decimal of a finite number is laid out. -/
structure NumberLayout where
  /-- The least decimal exponent that is written positionally. -/
  least : Int
  /-- The greatest decimal exponent that is written positionally. -/
  greatest : Int
  /-- Whether an exponent that is not negative shows a plus sign. -/
  signedExponent : Bool
  /-- Which of two equally near decimals is written. -/
  tie : TieRule

namespace Binary64

/-- The sign of a number as text. -/
def signText (number : Binary64) : String :=
  if number.isNegative then "-" else ""

/-- The text of a number that is not finite. -/
def nonFiniteText (number : Binary64) : String :=
  if number.isNaN then "NaN" else number.signText ++ "inf"

/-- The text of a number in a layout. -/
def text (layout : NumberLayout) (number : Binary64) : String :=
  if number.isFinite then
    let decimal := Decimal.shortest layout.tie number.magnitude
    let exponent := decimal.pointPlace - 1
    number.signText ++
      if number.magnitude = 0 ∨ (layout.least ≤ exponent ∧ exponent ≤ layout.greatest) then
        decimal.positional
      else
        decimal.scientific layout.signedExponent
  else number.nonFiniteText

/-- The text of a number without an exponent: a number with no fraction is
written out in full, any other with the fewest digits that read back. -/
def plainText (number : Binary64) : String :=
  if number.isFinite then
    let units := units number.magnitude
    number.signText ++
      if units % unitsInOne = 0 then toString (units / unitsInOne) ++ ".0"
      else (Decimal.shortest .larger number.magnitude).positional
  else number.nonFiniteText

end Binary64

end BlockData
