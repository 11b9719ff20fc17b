import BlockData.Lexeme.Numeral
import BlockData.Proofs.Number.Bits
import BlockData.Proofs.Number.Decimals
import BlockData.Number.Layout

/-!
# Numbers as literals

The text of a finite number is a sign and digits on both sides of a point, and these
digits denote its magnitude (`Binary64.plainText_isPointLiteral`), whichever of the two
ways of writing it was taken.
-/

namespace BlockData

/-- Reading digits in base ten is reading decimal digits. -/
theorem digitsValue_eq_ofDigitChars {digits : List Char} (areDigits : ∀ c ∈ digits, c.isDigit) :
    digitsValue 10 digits = Nat.ofDigitChars 10 digits 0 := by
  rw [digitsValue, Nat.ofDigitChars_eq_foldl]
  generalize 0 = start
  induction digits generalizing start with
  | nil => rfl
  | cons c rest inductionHypothesis =>
      have isDigit : c.isDigit = true := areDigits c List.mem_cons_self
      rw [List.foldl_cons, List.foldl_cons, digitValue, if_pos isDigit]
      exact inductionHypothesis (fun d member => areDigits d (List.mem_cons_of_mem _ member)) _

/-- The digits of a natural number are digits. -/
theorem isDigit_of_mem_toDigits {number : Nat} {c : Char} (member : c ∈ Nat.toDigits 10 number) :
    c.isDigit = true :=
  Nat.isDigit_of_mem_toDigits (by decide) (by decide) member

/-- The digits of a natural number denote it. -/
theorem digitsValue_toDigits (number : Nat) : digitsValue 10 (Nat.toDigits 10 number) = number := by
  rw [digitsValue_eq_ofDigitChars fun c => isDigit_of_mem_toDigits, Nat.ofDigitChars_ten_toDigits]

/-- Digits behind others start from the value of these. -/
theorem digitsValue_append (first second : List Char) : digitsValue 10 (first ++ second) =
    second.foldl (fun value digit => 10 * value + digitValue digit) (digitsValue 10 first) := by
  rw [digitsValue, digitsValue, List.foldl_append]

/-- Zeros at the end are factors of ten. -/
theorem digitsValue_append_zeros (digits : List Char) (count : Nat) :
    digitsValue 10 (digits ++ List.replicate count '0') = digitsValue 10 digits * 10 ^ count := by
  rw [digitsValue_append]
  generalize digitsValue 10 digits = start
  induction count generalizing start with
  | zero => simp
  | succ count inductionHypothesis =>
      have zero : digitValue '0' = 0 := rfl
      rw [List.replicate_succ, List.foldl_cons, inductionHypothesis, zero, pow_succ]
      ring

/-- Zeros at the start denote nothing. -/
theorem digitsValue_zeros_append (count : Nat) (digits : List Char) :
    digitsValue 10 (List.replicate count '0' ++ digits) = digitsValue 10 digits := by
  have zeros : digitsValue 10 (List.replicate count '0') = 0 := by
    have all := digitsValue_append_zeros [] count
    rwa [List.nil_append, show digitsValue 10 [] = 0 from rfl, Nat.zero_mul] at all
  rw [digitsValue_append, zeros]
  rfl

/-- Zeros are digits. -/
theorem isDigit_of_mem_zeros (count : Nat) {c : Char} (member : c ∈ List.replicate count '0') :
    c.isDigit = true := by
  rw [List.eq_of_mem_replicate member]
  rfl

/-- Characters are digits on both sides of a point. -/
structure IsPointLiteral (characters whole fraction : List Char) : Prop where
  split : characters = whole ++ '.' :: fraction
  wholeNonempty : whole ≠ []
  fractionNonempty : fraction ≠ []
  wholeDigits : ∀ c ∈ whole, c.isDigit = true
  fractionDigits : ∀ c ∈ fraction, c.isDigit = true

namespace Decimal

/-- What a point literal denotes. -/
theorem number_pointLiteral (whole fraction : List Char) :
    (Numeral.decimal whole (some fraction) none).number =
      digitsValue 10 (whole ++ fraction) * 10 ^ (-(fraction.length : ℤ)) := by
  simp [Numeral.decimal, number]

/-- A decimal is laid out as a literal of the same number. -/
theorem positional_isPointLiteral (decimal : Decimal) : ∃ whole fraction,
    IsPointLiteral decimal.positional.toList whole fraction ∧
      (Numeral.decimal whole (some fraction) none).number = decimal.number := by
  have areDigits : ∀ c ∈ decimal.digits, c.isDigit = true := fun c => isDigit_of_mem_toDigits
  have nonempty : decimal.digits ≠ [] := Nat.toDigits_ne_nil
  have denote : digitsValue 10 decimal.digits = decimal.coefficient := digitsValue_toDigits _
  have isPlace : decimal.pointPlace = decimal.digits.length + decimal.exponent := rfl
  unfold positional
  generalize decimal.digits = digits at *
  generalize decimal.pointPlace = place at *
  dsimp only
  split
  · -- zeros stand between the point and the digits
    rename_i before
    let zeros := List.replicate (-place).toNat '0'
    have value : digitsValue 10 (['0'] ++ (zeros ++ digits)) = decimal.coefficient := by
      have all := digitsValue_zeros_append ((-place).toNat + 1) digits
      rw [List.replicate_succ] at all
      rw [← denote, ← all]
      rfl
    have power : -((zeros ++ digits).length : ℤ) = decimal.exponent := by
      rw [List.length_append, List.length_replicate]
      omega
    refine ⟨['0'], zeros ++ digits, ⟨String.toList_ofList, by simp, by simp [nonempty], ?_, ?_⟩, ?_⟩
    · exact fun c => isDigit_of_mem_zeros 1
    · intro c member
      rcases List.mem_append.mp member with member | member
      · exact isDigit_of_mem_zeros _ member
      · exact areDigits c member
    · rw [number_pointLiteral, value, power, number]
  split
  · -- zeros stand between the digits and the point
    rename_i after behind
    let zeros := List.replicate (place.toNat - digits.length) '0'
    have value : digitsValue 10 ((digits ++ zeros) ++ ['0']) =
        decimal.coefficient * 10 ^ (place.toNat - digits.length) * 10 := by
      have first := digitsValue_append_zeros digits (place.toNat - digits.length)
      have last := digitsValue_append_zeros (digits ++ zeros) 1
      rw [denote] at first
      rwa [first, pow_one] at last
    have power : decimal.exponent = (place.toNat - digits.length : Nat) := by omega
    refine ⟨digits ++ zeros, ['0'], ⟨?_, by simp [nonempty], by simp, ?_, ?_⟩, ?_⟩
    · rw [String.toList_ofList]
    · intro c member
      rcases List.mem_append.mp member with member | member
      · exact areDigits c member
      · exact isDigit_of_mem_zeros _ member
    · exact fun c => isDigit_of_mem_zeros 1
    · rw [number_pointLiteral, value, number, power]
      push_cast
      simp
  · -- the point stands between two digits
    rename_i after within
    have value : digitsValue 10 (digits.take place.toNat ++ digits.drop place.toNat) =
        decimal.coefficient := by
      rw [List.take_append_drop, denote]
    have power : -((digits.drop place.toNat).length : ℤ) = decimal.exponent := by
      rw [List.length_drop]
      omega
    refine ⟨digits.take place.toNat, digits.drop place.toNat,
      ⟨String.toList_ofList, ?_, ?_, ?_, ?_⟩, ?_⟩
    · rw [Ne, List.take_eq_nil_iff]
      rintro (none | none)
      · omega
      · exact nonempty none
    · rw [Ne, List.drop_eq_nil_iff]
      omega
    · exact fun c member => areDigits c (List.mem_of_mem_take member)
    · exact fun c member => areDigits c (List.mem_of_mem_drop member)
    · rw [number_pointLiteral, value, power, number]

end Decimal

namespace Binary64

/-- The text of a finite number is its sign and a literal of its magnitude. -/
theorem plainText_isPointLiteral {number : Binary64} (finite : number.isFinite = true) :
    ∃ characters whole fraction, number.plainText.toList = number.signText.toList ++ characters ∧
      IsPointLiteral characters whole fraction ∧
      (Numeral.decimal whole (some fraction) none).toMagnitude = number.magnitude := by
  have isFinite : number.magnitude < infinityBits := of_decide_eq_true finite
  unfold plainText
  rw [if_pos finite]
  dsimp only
  split
  · rename_i integral
    let whole := Nat.toDigits 10 (units number.magnitude / unitsInOne)
    have value : digitsValue 10 (whole ++ ['0']) = units number.magnitude / unitsInOne * 10 := by
      have last := digitsValue_append_zeros whole 1
      rwa [digitsValue_toDigits, pow_one] at last
    have exactly : units number.magnitude / unitsInOne * unitsInOne = units number.magnitude :=
      Nat.div_mul_cancel (Nat.dvd_of_mod_eq_zero integral)
    refine ⟨_, whole, ['0'], String.toList_append ..,
      ⟨?_, Nat.toDigits_ne_nil, by simp, ?_, ?_⟩, ?_⟩
    · rw [String.toList_append, Nat.toString_eq_ofList_toDigits, String.toList_ofList]
      rfl
    · exact fun c => isDigit_of_mem_toDigits
    · exact fun c => isDigit_of_mem_zeros 1
    · refine Decimal.toMagnitude_of_number_eq isFinite ?_
      have unitsNonzero : (unitsInOne : ℚ) ≠ 0 := by
        exact_mod_cast Nat.ne_of_gt unitsInOne_pos
      rw [Decimal.number_pointLiteral, value, eq_div_iff unitsNonzero]
      conv => rhs; rw [← exactly]
      push_cast
      simp
  · obtain ⟨whole, fraction, isLiteral, same⟩ :=
      (Decimal.shortest .larger number.magnitude).positional_isPointLiteral
    have readsBack := Decimal.toMagnitude_shortest .larger isFinite
    refine ⟨_, whole, fraction, String.toList_append .., isLiteral, ?_⟩
    rw [Decimal.toMagnitude_congr same.symm (readsBack.symm ▸ isFinite), readsBack]

end Binary64

end BlockData
