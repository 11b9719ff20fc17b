import BlockData.Number.Binary64

/-!
# Bits of numbers

A binary64 number is its sign bit and its magnitude, and a magnitude below the sign bit
leaves both readable.
-/

namespace BlockData.Binary64

/-- A pattern of a sign and a small magnitude as a natural number. -/
theorem toNat_bits_ofMagnitude {negative : Bool} {magnitude : Nat}
    (small : magnitude < signBit) : (ofMagnitude negative magnitude).bits.toNat =
      (if negative then signBit else 0) + magnitude := by
  have within : (if negative then signBit else 0) + magnitude < 2 ^ 64 := by
    simp only [signBit] at small ⊢
    split <;> omega
  rw [ofMagnitude, UInt64.toNat_ofNat', Nat.mod_eq_of_lt within]

/-- The magnitude of a number is the one that it was made with. -/
@[simp] theorem magnitude_ofMagnitude {negative : Bool} {magnitude : Nat}
    (small : magnitude < signBit) : (ofMagnitude negative magnitude).magnitude = magnitude := by
  rw [Binary64.magnitude, toNat_bits_ofMagnitude small]
  cases negative with
  | false => simpa using Nat.mod_eq_of_lt small
  | true => simpa using Nat.mod_eq_of_lt small

/-- The sign of a number is the one that it was made with. -/
@[simp] theorem isNegative_ofMagnitude {negative : Bool} {magnitude : Nat}
    (small : magnitude < signBit) : (ofMagnitude negative magnitude).isNegative = negative := by
  rw [isNegative, toNat_bits_ofMagnitude small]
  cases negative with
  | false => simpa using small
  | true => simp

/-- A number is made of its sign and its magnitude. -/
theorem ofMagnitude_magnitude (number : Binary64) :
    ofMagnitude number.isNegative number.magnitude = number := by
  obtain ⟨bits⟩ := number
  have within := bits.toNat_lt
  have pattern : (if isNegative ⟨bits⟩ then signBit else 0) + magnitude ⟨bits⟩ = bits.toNat := by
    by_cases negative : signBit ≤ bits.toNat
    · simp only [isNegative, magnitude, negative, decide_true, if_true]
      simp only [signBit] at negative ⊢
      omega
    · simp only [isNegative, magnitude, negative, decide_false, Bool.false_eq_true, if_false]
      simp only [signBit] at negative ⊢
      omega
  rw [ofMagnitude, pattern, UInt64.ofNat_toNat]

/-- A magnitude below infinity leaves room for the sign. -/
theorem lt_signBit {magnitude : Nat} (finite : magnitude < infinityBits) : magnitude < signBit := by
  simp only [infinityBits, hiddenBit, signBit] at *
  omega

/-- A number with a magnitude below infinity is finite. -/
theorem isFinite_ofMagnitude {negative : Bool} {magnitude : Nat}
    (finite : magnitude < infinityBits) : (ofMagnitude negative magnitude).isFinite = true := by
  rw [isFinite, magnitude_ofMagnitude (lt_signBit finite)]
  exact decide_eq_true finite

end BlockData.Binary64
