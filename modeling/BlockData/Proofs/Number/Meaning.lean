import BlockData.Proofs.Lexing.Numbers
import BlockData.Proofs.Number.Nearest
import Mathlib.Data.List.Infix
import Mathlib.Data.Nat.Digits.Defs

/-!
# What numbers denote

The literals of numbers are written forms whose runs of digits are not empty. The digits have
values by their places, so a literal stands for a rational number (`Numeral.number`). From this
number alone follows what the literal denotes: an integer if it is one of 64 bits, the nearest
binary64 number if it is written as a float and not too large, and otherwise a report that it
is out of range (`Numeral.Denotes`). A literal denotes one thing only (`Numeral.Denotes.unique`),
and this is the value that is read from it (`Numeral.denotes_meaning`).
-/

namespace BlockData

/-- The signs of numbers. -/
def signChars : List Char :=
  ['+', '-']

/-- Characters are a run: there are some, and all of them are of a kind. -/
def IsRun (p : Char → Bool) (characters : List Char) : Prop :=
  characters ≠ [] ∧ ∀ c ∈ characters, p c = true

/-- The literals of exponents: a letter, perhaps a sign, and digits. -/
structure Exponent.IsLiteral (exponent : Exponent) : Prop where
  mark : exponent.mark = 'e' ∨ exponent.mark = 'E'
  sign : ∀ c ∈ exponent.sign, c ∈ signChars
  digits : IsRun Char.isDigit exponent.digits

/-- The literals of numbers without a sign. -/
inductive Digits.IsLiteral : Digits → Prop
  /-- A zero, a letter and hexadecimal digits. -/
  | hexadecimal {mark : Char} {digits : List Char} (isMark : mark = 'x' ∨ mark = 'X')
      (areDigits : IsRun isHexDigit digits) : IsLiteral (.hexadecimal mark digits)
  /-- Digits, perhaps a point and more digits, and perhaps an exponent. -/
  | decimal {whole : List Char} {fraction : Option (List Char)} {exponent : Option Exponent}
      (areDigits : IsRun Char.isDigit whole)
      (isFraction : ∀ digits ∈ fraction, IsRun Char.isDigit digits)
      (isExponent : ∀ written ∈ exponent, written.IsLiteral) :
      IsLiteral (.decimal whole fraction exponent)

/-- The literals of numbers: perhaps a sign, and a literal without one. -/
structure Numeral.IsLiteral (numeral : Numeral) : Prop where
  sign : ∀ c ∈ numeral.sign, c ∈ signChars
  body : numeral.body.IsLiteral

/-- The value of a digit is its place among all sixteen digits. -/
def digitRank (c : Char) : Nat :=
  "0123456789abcdef".toList.idxOf c.toLower

/-- The value of digits of a base by their places, the least significant one last. -/
def positional (base : Nat) (digits : List Char) : Nat :=
  Nat.ofDigits base (digits.reverse.map digitRank)

/-- The digits of an exponent are counted until their value is beyond 65535, and no further.
Numbers with such an exponent are out of range or zero, unless they have as many digits. -/
def countedExponent (digits : List Char) : Nat :=
  positional 10 ((digits.inits.find? fun counted => 65535 < positional 10 counted).getD digits)

/-- The power of ten of an exponent. -/
def Exponent.power (exponent : Exponent) : ℤ :=
  if exponent.sign = some '-' then -countedExponent exponent.digits
  else countedExponent exponent.digits

/-- The number that a literal without a sign stands for. -/
def Digits.number : Digits → ℚ
  | .hexadecimal _ digits => positional 16 digits
  | .decimal whole fraction exponent =>
      positional 10 (whole ++ fraction.getD []) *
        10 ^ (exponent.elim 0 Exponent.power - (fraction.getD []).length : ℤ)

namespace Numeral

/-- The number that a literal stands for. -/
def number (numeral : Numeral) : ℚ :=
  Binary64.signFactor numeral.isNegative * numeral.body.number

/-- What a literal denotes: the kind of its token, and the value. -/
inductive Denotes (numeral : Numeral) : Kind → Value → Prop
  /-- The number is an integer of 64 bits. -/
  | integer {number : Int64} (isInteger : numeral.isFloat = false)
      (exact : (number.toInt : ℚ) = numeral.number) :
      Denotes numeral (.value .integer) (.integer number)
  /-- The number is an integer of more bits. -/
  | integerOutOfRange (isInteger : numeral.isFloat = false)
      (beyond : numeral.number < -2 ^ 63 ∨ 2 ^ 63 - 1 < numeral.number) :
      Denotes numeral .fail
        (.text s!"Integer out of range: '{String.ofList numeral.text}'")
  /-- A finite binary64 number is the nearest one. -/
  | float {number : Binary64} (isFloat : numeral.isFloat = true)
      (within : |numeral.number| < Binary64.overflowBound)
      (sign : number.isNegative = numeral.isNegative)
      (nearest : number.IsNearestTo numeral.number) :
      Denotes numeral (.value .float) (.float number)
  /-- The number is beyond the finite binary64 numbers. -/
  | floatOutOfRange (isFloat : numeral.isFloat = true)
      (beyond : Binary64.overflowBound ≤ |numeral.number|) :
      Denotes numeral .fail
        (.text s!"Float out of range: '{String.ofList (numeral.text.map Char.toLower)}'")

end Numeral

/-- A hexadecimal digit is one of twenty-two characters. -/
theorem mem_of_isHexDigit {c : Char} (digit : isHexDigit c = true) :
    c ∈ "0123456789abcdefABCDEF".toList := by
  simp only [isHexDigit, Bool.or_eq_true, Bool.and_eq_true, decide_eq_true_eq, Char.le_def,
    UInt32.le_iff_toNat_le] at digit
  rcases digit with (decimal | ⟨lower, upper⟩) | ⟨lower, upper⟩
  · exact List.mem_append_left "abcdefABCDEF".toList (mem_of_isDigit decimal)
  · exact mem_of_code_between (show 97 ≤ c.toNat from lower) (show c.toNat ≤ 102 from upper)
      (by decide)
  · exact mem_of_code_between (show 65 ≤ c.toNat from lower) (show c.toNat ≤ 70 from upper)
      (by decide)

/-- The values of digits are their places. -/
theorem digitValue_eq_digitRank {c : Char} (digit : isHexDigit c = true) :
    digitValue c = digitRank c := by
  have all : "0123456789abcdefABCDEF".toList.map digitValue =
      "0123456789abcdefABCDEF".toList.map digitRank := by decide
  exact List.map_inj_left.mp all c (mem_of_isHexDigit digit)

/-- Decimal digits are hexadecimal ones. -/
theorem isHexDigit_of_isDigit {c : Char} (digit : c.isDigit = true) : isHexDigit c = true := by
  simp [isHexDigit, digit]

/-- One more digit counts as itself and moves the others up. -/
theorem positional_concat (base : Nat) (digits : List Char) (c : Char) :
    positional base (digits ++ [c]) = base * positional base digits + digitRank c := by
  simp [positional, Nat.ofDigits_cons, Nat.add_comm]

/-- Reading digits from left to right gives their value by places. -/
theorem digitsValue_eq_positional (base : Nat) {digits : List Char}
    (areDigits : ∀ c ∈ digits, isHexDigit c = true) :
    digitsValue base digits = positional base digits := by
  induction digits using List.reverseRecOn with
  | nil => rfl
  | append_singleton digits c inductionHypothesis =>
      have others := inductionHypothesis fun d member => areDigits d (by simp [member])
      have last := digitValue_eq_digitRank (areDigits c (by simp))
      rw [positional_concat, ← others, ← last, digitsValue, List.foldl_append]
      rfl

/-- An exponent that is large enough is counted no further. -/
theorem foldl_exponent_of_large {value : Nat} (large : 65536 ≤ value) (digits : List Char) :
    digits.foldl (fun value digit => if value < 65536 then 10 * value + digitValue digit else value)
      value = value := by
  induction digits with
  | nil => rfl
  | cons c digits inductionHypothesis =>
      rw [List.foldl_cons, if_neg (by omega), inductionHypothesis]

/-- Counting on from the value of some digits goes up to the first head beyond 65535. -/
theorem foldl_exponent_eq {front digits : List Char}
    (areDigits : ∀ c ∈ digits, c.isDigit = true) (small : positional 10 front < 65536) :
    digits.foldl (fun value digit => if value < 65536 then 10 * value + digitValue digit else value)
      (positional 10 front) =
      positional 10 (((digits.inits.map (front ++ ·)).find? fun counted =>
        65535 < positional 10 counted).getD (front ++ digits)) := by
  induction digits generalizing front with
  | nil => simp [Nat.not_lt.mpr (Nat.le_of_lt_succ small)]
  | cons c digits inductionHypothesis =>
      obtain ⟨first, others⟩ := List.forall_mem_cons.mp areDigits
      have next : 10 * positional 10 front + digitValue c = positional 10 (front ++ [c]) := by
        rw [positional_concat, digitValue_eq_digitRank (isHexDigit_of_isDigit first)]
      have heads : (c :: digits).inits.map (front ++ ·) =
          front :: digits.inits.map (front ++ [c] ++ ·) := by
        simp [Function.comp_def]
      have whole : front ++ c :: digits = front ++ [c] ++ digits := List.append_cons ..
      rw [List.foldl_cons, if_pos small, next, heads,
        List.find?_cons_of_neg (by simpa using Nat.le_of_lt_succ small), whole]
      by_cases further : positional 10 (front ++ [c]) < 65536
      · exact inductionHypothesis others further
      · -- the digit is the first one that takes the value beyond the bound
        have large : 65536 ≤ positional 10 (front ++ [c]) := Nat.le_of_not_lt further
        obtain ⟨longer, isInits⟩ : ∃ longer, digits.inits = [] :: longer := by
          cases digits <;> simp
        rw [foldl_exponent_of_large large, isInits, List.map_cons, List.append_nil,
          List.find?_cons_of_pos (by simpa using Nat.lt_of_succ_le large), Option.getD_some]

/-- An exponent is counted as far as it counts. -/
theorem exponentValue_eq_countedExponent {digits : List Char}
    (areDigits : ∀ c ∈ digits, c.isDigit = true) :
    exponentValue digits = countedExponent digits := by
  have counted := foldl_exponent_eq areDigits (show positional 10 [] < 65536 by decide)
  simpa [countedExponent, exponentValue, positional] using counted

/-- The number of a literal without a sign is the decimal that is read from it. -/
theorem Digits.IsLiteral.number_decimal {whole : List Char} {fraction : Option (List Char)}
    {exponent : Option Exponent} (isLiteral : (Digits.decimal whole fraction exponent).IsLiteral) :
    (Numeral.decimal whole fraction exponent).number =
      (Digits.decimal whole fraction exponent).number := by
  cases isLiteral with
  | decimal areDigits isFraction isExponent =>
      have coefficient : digitsValue 10 (whole ++ fraction.getD []) =
          positional 10 (whole ++ fraction.getD []) := by
        refine digitsValue_eq_positional 10 fun c member => isHexDigit_of_isDigit ?_
        rcases List.mem_append.mp member with member | member
        · exact areDigits.2 c member
        · cases fraction with
          | none => cases member
          | some digits => exact (isFraction digits rfl).2 c member
      have power : (exponent.elim 0 fun written =>
          if written.sign = some '-' then -(exponentValue written.digits : ℤ)
          else exponentValue written.digits) = exponent.elim 0 Exponent.power := by
        cases exponent with
        | none => rfl
        | some written =>
            rw [Option.elim_some, Option.elim_some, Exponent.power,
              exponentValue_eq_countedExponent (isExponent written rfl).digits.2]
      rw [Decimal.number, Digits.number, ← coefficient, ← power]
      rfl

namespace Numeral

/-- What is read as the meaning of a literal: the kind of its token, and the value. -/
def meaning (numeral : Numeral) : Kind × Value :=
  match numeral.value with
  | .ok value => (.value (if numeral.isFloat then .float else .integer), value)
  | .error flaw => (.fail, .text flaw.message)

variable {numeral : Numeral}

/-- The size of a number does not depend on its sign. -/
theorem abs_number {size : ℚ} (nonneg : 0 ≤ size) (isSize : numeral.body.number = size) :
    |numeral.number| = size := by
  rw [number, isSize, Binary64.signFactor]
  cases numeral.isNegative <;> simp [abs_of_nonneg nonneg]

/-- Digits with a sign denote the integer that they are, or that it is out of range. -/
theorem denotes_of_integer {base : Nat} {digits : List Char} (isInteger : numeral.isFloat = false)
    (areDigits : ∀ c ∈ digits, isHexDigit c = true)
    (isNumber : numeral.body.number = positional base digits)
    (isValue : numeral.value = numeral.integerValue base digits) :
    numeral.Denotes numeral.meaning.1 numeral.meaning.2 := by
  obtain ⟨signed, isSigned⟩ : ∃ signed : ℤ, signed =
      if numeral.isNegative then -(digitsValue base digits : ℤ) else digitsValue base digits :=
    ⟨_, rfl⟩
  have exact : (signed : ℚ) = numeral.number := by
    rw [isSigned, number, isNumber, digitsValue_eq_positional base areDigits, Binary64.signFactor]
    cases numeral.isNegative <;> simp
  rw [meaning, isValue, integerValue, signedInteger?]
  simp only [← isSigned, isInteger, Bool.false_eq_true, if_false]
  by_cases within : Int64.minValue.toInt ≤ signed ∧ signed ≤ Int64.maxValue.toInt
  · rw [if_pos within]
    refine .integer isInteger ?_
    rw [← exact, Int64.toInt_ofInt_of_le within.1 (Int.lt_add_one_of_le within.2)]
  · rw [if_neg within]
    refine .integerOutOfRange isInteger ?_
    rw [← exact]
    have outside : signed < -2 ^ 63 ∨ 2 ^ 63 - 1 < signed := by
      have least : Int64.minValue.toInt = -2 ^ 63 := rfl
      have greatest : Int64.maxValue.toInt = 2 ^ 63 - 1 := rfl
      omega
    exact_mod_cast outside

/-- A decimal with a sign denotes the nearest number, or that it is out of range. -/
theorem denotes_of_float {decimal : Decimal} (isFloat : numeral.isFloat = true)
    (isNumber : numeral.body.number = decimal.number)
    (isValue : numeral.value =
      if decimal.toMagnitude < Binary64.infinityBits then
        .ok (.float (.ofMagnitude numeral.isNegative decimal.toMagnitude))
      else .error (.floatOutOfRange (numeral.text.map Char.toLower))) :
    numeral.Denotes numeral.meaning.1 numeral.meaning.2 := by
  have positive := decimal.denominator_pos
  have isQuotient := decimal.number_eq_div
  have bound := Binary64.nearest_lt_infinityBits_iff decimal.numerator positive
  have nonneg : 0 ≤ decimal.number := by
    rw [isQuotient]
    positivity
  have size : |numeral.number| = decimal.number := abs_number nonneg isNumber
  rw [← isQuotient, ← size] at bound
  rw [meaning, isValue]
  simp only [isFloat, if_true]
  by_cases finite : decimal.toMagnitude < Binary64.infinityBits
  · have isNearest := Decimal.toMagnitude_eq_nearest (.inl finite)
    rw [isNearest] at finite ⊢
    rw [if_pos finite]
    refine .float isFloat (bound.mp finite)
      (Binary64.isNegative_ofMagnitude (Binary64.lt_signBit finite)) ?_
    rw [number, isNumber, isQuotient]
    exact Binary64.isNearestTo_nearest numeral.isNegative positive finite
  · rw [if_neg finite]
    refine .floatOutOfRange isFloat (not_lt.mp fun within => finite ?_)
    rw [Decimal.toMagnitude_eq_nearest (.inr (bound.mpr within))]
    exact bound.mpr within

/-- The meaning that is read is what the literal denotes. -/
theorem denotes_meaning (isLiteral : numeral.IsLiteral) :
    numeral.Denotes numeral.meaning.1 numeral.meaning.2 := by
  obtain ⟨sign, body⟩ := numeral
  cases isLiteral.body with
  | hexadecimal isMark areDigits => exact denotes_of_integer rfl areDigits.2 rfl rfl
  | @decimal whole fraction exponent areDigits isFraction isExponent =>
      cases isFloat : (Numeral.mk sign (.decimal whole fraction exponent)).isFloat with
      | false =>
          obtain ⟨noFraction, noExponent⟩ := Bool.or_eq_false_iff.mp isFloat
          obtain rfl := Option.isSome_eq_false_iff.mp noFraction |> Option.isNone_iff_eq_none.mp
          obtain rfl := Option.isSome_eq_false_iff.mp noExponent |> Option.isNone_iff_eq_none.mp
          have isNumber : (Digits.decimal whole none none).number = positional 10 whole := by
            simp [Digits.number]
          exact denotes_of_integer isFloat (fun c member => isHexDigit_of_isDigit
            (areDigits.2 c member)) isNumber (value_of_digits rfl)
      | true =>
          refine denotes_of_float isFloat isLiteral.body.number_decimal.symm ?_
          rw [value]
          simp only [isFloat, if_true]

/-- A literal denotes one thing only. -/
theorem Denotes.unique {kind otherKind : Kind} {value otherValue : Value}
    (denotes : numeral.Denotes kind value) (otherDenotes : numeral.Denotes otherKind otherValue) :
    kind = otherKind ∧ value = otherValue := by
  -- the number of an integer of 64 bits is not beyond them
  have inside : ∀ {number : Int64}, (number.toInt : ℚ) = numeral.number →
      ¬ (numeral.number < -2 ^ 63 ∨ 2 ^ 63 - 1 < numeral.number) := by
    intro number exact beyond
    have lower := number.le_toInt
    have upper := number.toInt_lt
    rw [← exact] at beyond
    have outside : number.toInt < -2 ^ 63 ∨ 2 ^ 63 - 1 < number.toInt := by exact_mod_cast beyond
    omega
  cases denotes with
  | integer isInteger exact =>
      cases otherDenotes with
      | integer _ otherExact =>
          have same := exact.trans otherExact.symm
          exact ⟨rfl, congrArg _ (Int64.toInt_inj.mp (by exact_mod_cast same))⟩
      | integerOutOfRange _ beyond => exact absurd beyond (inside exact)
      | float isFloat => simp [isInteger] at isFloat
      | floatOutOfRange isFloat => simp [isInteger] at isFloat
  | integerOutOfRange isInteger beyond =>
      cases otherDenotes with
      | integer _ exact => exact absurd beyond (inside exact)
      | integerOutOfRange => exact ⟨rfl, rfl⟩
      | float isFloat => simp [isInteger] at isFloat
      | floatOutOfRange isFloat => simp [isInteger] at isFloat
  | float isFloat within sign nearest =>
      cases otherDenotes with
      | integer isInteger => simp [isInteger] at isFloat
      | integerOutOfRange isInteger => simp [isInteger] at isFloat
      | float _ _ otherSign otherNearest =>
          exact ⟨rfl, congrArg _ (nearest.unique otherNearest (sign.trans otherSign.symm))⟩
      | floatOutOfRange _ beyond => exact absurd within (not_lt.mpr beyond)
  | floatOutOfRange isFloat beyond =>
      cases otherDenotes with
      | integer isInteger => simp [isInteger] at isFloat
      | integerOutOfRange isInteger => simp [isInteger] at isFloat
      | float _ within => exact absurd within (not_lt.mpr beyond)
      | floatOutOfRange => exact ⟨rfl, rfl⟩

end Numeral

end BlockData
