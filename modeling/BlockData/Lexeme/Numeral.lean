import BlockData.Character.Numeric
import BlockData.Lexeme.Flaw
import BlockData.Value

/-!
# Number literals

The written form of a number and what it denotes. `Numeral.read` takes the
longest literal at the head of a text: an optional sign, then hexadecimal digits
after `0x`, or decimal digits with an optional fraction and exponent. A fraction
or an exponent makes the number a float, and otherwise it is an integer of 64
bits.
-/

namespace BlockData

/-- Whether a character is a hexadecimal digit. -/
def isHexDigit (c : Char) : Bool :=
  c.isDigit || (decide ('a' ≤ c) && decide (c ≤ 'f')) || (decide ('A' ≤ c) && decide (c ≤ 'F'))

/-- The written exponent of a float. -/
structure Exponent where
  /-- The letter that introduces the exponent. -/
  mark : Char
  sign : Option Char
  digits : List Char
deriving DecidableEq

/-- The written form of a number without its sign. -/
inductive Digits where
  | hexadecimal (mark : Char) (digits : List Char)
  | decimal (whole : List Char) (fraction : Option (List Char)) (exponent : Option Exponent)
deriving DecidableEq

/-- The written form of a number. -/
structure Numeral where
  sign : Option Char
  body : Digits
deriving DecidableEq

/-- The characters of an exponent. -/
def Exponent.text (exponent : Exponent) : List Char :=
  exponent.mark :: (exponent.sign.toList ++ exponent.digits)

/-- The characters of a number without its sign. -/
def Digits.text : Digits → List Char
  | .hexadecimal mark digits => '0' :: mark :: digits
  | .decimal whole fraction exponent =>
      whole ++ (fraction.elim [] fun digits => '.' :: digits) ++ exponent.elim [] Exponent.text

/-- The sign at the head of a text, and the text behind it. -/
def readSign : List Char → Option Char × List Char
  | '+' :: rest => (some '+', rest)
  | '-' :: rest => (some '-', rest)
  | text => (none, text)

/-- The digits of a fraction: a point counts only before a digit. -/
def readFraction? : List Char → Option (List Char)
  | '.' :: rest =>
      match rest.takeWhile Char.isDigit with
      | [] => none
      | digits => some digits
  | _ => none

/-- An exponent: its letter counts only before a digit or a sign and a digit. -/
def readExponent? : List Char → Option Exponent
  | [] => none
  | mark :: rest =>
      if mark = 'e' ∨ mark = 'E' then
        let (sign, unsigned) := readSign rest
        match unsigned.takeWhile Char.isDigit with
        | [] => none
        | digits => some ⟨mark, sign, digits⟩
      else none

namespace Digits

/-- The longest decimal literal at the head of a text. -/
def readDecimal (text : List Char) : Digits :=
  let whole := text.takeWhile Char.isDigit
  let afterWhole := text.dropWhile Char.isDigit
  let fraction := readFraction? afterWhole
  let afterFraction := afterWhole.drop (fraction.elim 0 fun digits => digits.length + 1)
  .decimal whole fraction (readExponent? afterFraction)

/-- The longest literal without a sign at the head of a text. -/
def read (text : List Char) : Digits :=
  match text with
  | '0' :: mark :: rest =>
      if (mark = 'x' ∨ mark = 'X') ∧ rest.takeWhile isHexDigit ≠ [] then
        .hexadecimal mark (rest.takeWhile isHexDigit)
      else readDecimal text
  | _ => readDecimal text

end Digits

/-- The integer of a sign and a magnitude, if it has 64 bits. -/
def signedInteger? (negative : Bool) (magnitude : Nat) : Option Int64 :=
  let number : Int := if negative then -(magnitude : Int) else magnitude
  if Int64.minValue.toInt ≤ number ∧ number ≤ Int64.maxValue.toInt then some (Int64.ofInt number)
  else none

/-- The number that the digits of an exponent denote. They are counted up to the
first one that takes the number beyond 65535, and no further. -/
def exponentValue (digits : List Char) : Nat :=
  digits.foldl
    (fun value digit => if value < 65536 then 10 * value + digitValue digit else value) 0

namespace Numeral

/-- The characters of a number. -/
def text (numeral : Numeral) : List Char :=
  numeral.sign.toList ++ numeral.body.text

/-- The longest number at the head of a text. -/
def read (text : List Char) : Numeral :=
  let (sign, unsigned) := readSign text
  ⟨sign, Digits.read unsigned⟩

/-- Whether a number is negative. -/
def isNegative (numeral : Numeral) : Bool :=
  numeral.sign == some '-'

/-- Whether a number is written as a float. -/
def isFloat (numeral : Numeral) : Bool :=
  match numeral.body with
  | .hexadecimal .. => false
  | .decimal _ fraction exponent => fraction.isSome || exponent.isSome

/-- The decimal that digits, a fraction and an exponent denote. -/
def decimal (whole : List Char) (fraction : Option (List Char)) (exponent : Option Exponent) :
    Decimal :=
  let fractionDigits := fraction.getD []
  let power : Int := exponent.elim 0 fun written =>
    let magnitude : Int := exponentValue written.digits
    if written.sign = some '-' then -magnitude else magnitude
  ⟨digitsValue 10 (whole ++ fractionDigits), power - fractionDigits.length⟩

/-- The integer that digits denote. -/
def integerValue (numeral : Numeral) (base : Nat) (digits : List Char) : Except Flaw Value :=
  match signedInteger? numeral.isNegative (digitsValue base digits) with
  | some number => .ok (.integer number)
  | none => .error (.integerOutOfRange numeral.text)

/-- The value that a number denotes. A float takes the nearest finite number; a
report of its range spells the exponent with a small letter. -/
def value (numeral : Numeral) : Except Flaw Value :=
  match numeral.body with
  | .hexadecimal _ digits => numeral.integerValue 16 digits
  | .decimal whole fraction exponent =>
      if numeral.isFloat then
        let magnitude := (decimal whole fraction exponent).toMagnitude
        if magnitude < Binary64.infinityBits then
          .ok (.float (Binary64.ofMagnitude numeral.isNegative magnitude))
        else
          .error (.floatOutOfRange (numeral.text.map Char.toLower))
      else numeral.integerValue 10 whole

end Numeral

end BlockData
