import BlockData.Proofs.Lexing.Words
import BlockData.Proofs.Number.Literals
import Mathlib.Data.Nat.Init

/-!
# Reading numbers

A number without an exponent in front of white space is read as it is written
(`Numeral.read_append`). So the texts of integers and of finite floats are read as single
words with their values.
-/

namespace BlockData

/-- A number as the printer writes it: perhaps a minus sign, digits, and perhaps a point
and further digits. -/
structure Numeral.IsPlain (numeral : Numeral) (whole : List Char) (fraction : Option (List Char)) :
    Prop where
  sign : numeral.sign = none ∨ numeral.sign = some '-'
  body : numeral.body = .decimal whole fraction none
  wholeNonempty : whole ≠ []
  wholeDigits : ∀ c ∈ whole, c.isDigit = true
  fractionNonempty : ∀ digits ∈ fraction, digits ≠ []
  fractionDigits : ∀ digits ∈ fraction, ∀ c ∈ digits, c.isDigit = true

/-- No fraction starts in a detached text. -/
theorem readFraction?_detached {rest : List Char} (detached : IsDetached rest) :
    readFraction? rest = none := by
  cases rest with
  | nil => rfl
  | cons c others => rcases detached c rfl with rfl | rfl <;> rfl

/-- No exponent starts in a detached text. -/
theorem readExponent?_detached {rest : List Char} (detached : IsDetached rest) :
    readExponent? rest = none := by
  cases rest with
  | nil => rfl
  | cons c others => rcases detached c rfl with rfl | rfl <;> rfl

/-- A character is among some characters if all with a code between two bounds are, and its
code is there. -/
theorem mem_of_code_between {c : Char} {first last : Nat} {characters : List Char}
    (lower : first ≤ c.toNat) (upper : c.toNat ≤ last)
    (all : ∀ code, first ≤ code → code ≤ last → Char.ofNat code ∈ characters) :
    c ∈ characters := by
  rw [← Char.ofNat_toNat c]
  exact all c.toNat lower upper

/-- A digit is one of ten characters. -/
theorem mem_of_isDigit {c : Char} (digit : c.isDigit = true) : c ∈ "0123456789".toList := by
  obtain ⟨lower, upper⟩ : 48 ≤ c.toNat ∧ c.toNat ≤ 57 := Char.isDigit_iff_toNat.mp digit
  exact mem_of_code_between lower upper (by decide)

/-- A digit leads a number. -/
theorem Lead.of_digit {c : Char} (digit : c.isDigit = true) (next : Option Char) :
    Lead.of c next = .number := by
  have member := mem_of_isDigit digit
  simp only [String.reduceToList, List.mem_cons, List.not_mem_nil, or_false] at member
  rcases member with rfl | rfl | rfl | rfl | rfl | rfl | rfl | rfl | rfl | rfl <;> rfl

/-- A minus sign before a digit leads a number. -/
theorem Lead.of_minus {c : Char} (digit : c.isDigit = true) : Lead.of '-' (some c) = .number := by
  have single : singleKind? '-' = none := rfl
  simp [Lead.of, single, digit]

/-- A digit is no sign. -/
theorem readSign_digit {c : Char} (digit : c.isDigit = true) (rest : List Char) :
    readSign (c :: rest) = (none, c :: rest) := by
  unfold readSign
  split
  · rename_i same
    cases same
    cases digit
  · rename_i same
    cases same
    cases digit
  · rfl

namespace Digits

/-- Digits with a fraction are read as they are written. -/
theorem readDecimal_append {whole rest : List Char} {fraction : Option (List Char)}
    (wholeDigits : ∀ c ∈ whole, c.isDigit = true)
    (fractionNonempty : ∀ digits ∈ fraction, digits ≠ [])
    (fractionDigits : ∀ digits ∈ fraction, ∀ c ∈ digits, c.isDigit = true)
    (detached : IsDetached rest) :
    readDecimal ((Digits.decimal whole fraction none).text ++ rest) =
      .decimal whole fraction none := by
  cases fraction with
  | none =>
      have taken := detached.takeWhile_append wholeDigits rfl rfl
      have dropped := detached.dropWhile_append wholeDigits rfl rfl
      simp only [Digits.text, Option.elim_none, List.append_nil, readDecimal, taken, dropped,
        readFraction?_detached detached, List.drop_zero, readExponent?_detached detached]
  | some digits =>
      have areDigits := fractionDigits digits rfl
      have taken : (whole ++ ('.' :: digits ++ rest)).takeWhile Char.isDigit = whole := by
        rw [List.takeWhile_append_of_pos wholeDigits]
        simp
      have dropped : (whole ++ ('.' :: digits ++ rest)).dropWhile Char.isDigit =
          '.' :: digits ++ rest := by
        rw [List.dropWhile_append_of_pos wholeDigits]
        rfl
      have read : readFraction? ('.' :: digits ++ rest) = some digits := by
        rw [List.cons_append, readFraction?, detached.takeWhile_append areDigits rfl rfl]
        split
        · exact absurd rfl (fractionNonempty [] rfl)
        · rfl
      have behind : ('.' :: digits ++ rest).drop (digits.length + 1) = rest := by
        rw [List.cons_append, List.drop_succ_cons, List.drop_left]
      simp only [Digits.text, Option.elim_some, Option.elim_none, List.append_nil,
        List.append_assoc, readDecimal, taken, dropped, read, behind,
        readExponent?_detached detached]

/-- What starts with a digit but not with zero and a letter is decimal. -/
theorem read_eq_readDecimal {c : Char} {rest : List Char}
    (decimal : ∀ mark ∈ rest.head?, mark ≠ 'x' ∧ mark ≠ 'X') :
    Digits.read (c :: rest) = readDecimal (c :: rest) := by
  unfold Digits.read
  split
  · rename_i mark others same
    cases same
    rw [if_neg]
    rintro ⟨hexadecimal, -⟩
    have := decimal mark rfl
    simp_all
  · rfl

end Digits

namespace Numeral

namespace IsPlain

variable {numeral : Numeral} {whole : List Char} {fraction : Option (List Char)}

/-- A plain number without its sign starts with a digit. -/
theorem exists_digit (plain : numeral.IsPlain whole fraction) :
    ∃ c others, numeral.body.text = c :: others ∧ c.isDigit = true := by
  obtain ⟨c, others, isWhole⟩ := List.exists_cons_of_ne_nil plain.wholeNonempty
  refine ⟨c, others ++ fraction.elim [] (fun digits => '.' :: digits), ?_, ?_⟩
  · simp [plain.body, Digits.text, isWhole]
  · exact plain.wholeDigits c (by simp [isWhole])

/-- A plain number without its sign is read as it is written. -/
theorem read_body (plain : numeral.IsPlain whole fraction) {rest : List Char}
    (detached : IsDetached rest) : Digits.read (numeral.body.text ++ rest) = numeral.body := by
  have decimal := Digits.readDecimal_append plain.wholeDigits plain.fractionNonempty
    plain.fractionDigits detached
  obtain ⟨c, others, isWhole⟩ := List.exists_cons_of_ne_nil plain.wholeNonempty
  have mark : ∀ mark ∈ (others ++ (fraction.elim [] (fun digits => '.' :: digits)) ++ rest).head?,
      mark ≠ 'x' ∧ mark ≠ 'X' := by
    cases others with
    | cons d others =>
        have digit : d.isDigit = true := plain.wholeDigits d (by simp [isWhole])
        rintro _ ⟨rfl⟩
        constructor <;> rintro rfl <;> cases digit
    | nil =>
        cases fraction with
        | none =>
            intro mark isHead
            rcases detached mark isHead with rfl | rfl <;> decide
        | some digits =>
            rintro _ ⟨rfl⟩
            decide
  rw [plain.body, ← decimal, decimal]
  simp only [Digits.text, Option.elim_none, List.append_nil, isWhole, List.cons_append] at decimal ⊢
  rw [Digits.read_eq_readDecimal mark, decimal]

/-- A plain number in front of a detached text is read as it is written. -/
theorem read_append (plain : numeral.IsPlain whole fraction) {rest : List Char}
    (detached : IsDetached rest) : Numeral.read (numeral.text ++ rest) = numeral := by
  have body := plain.read_body detached
  obtain ⟨c, others, isText, digit⟩ := plain.exists_digit
  obtain ⟨sign, digits⟩ := numeral
  simp only at body isText
  rcases plain.sign with rfl | rfl
  · have unsigned := readSign_digit digit (others ++ rest)
    rw [← List.cons_append, ← isText] at unsigned
    simp only [Numeral.read, Numeral.text, Option.toList_none, List.nil_append, unsigned, body]
  · simp only [Numeral.read, Numeral.text, Option.toList_some, List.cons_append, List.nil_append,
      readSign, body]

/-- A plain number is led by a number. -/
theorem exists_lead (plain : numeral.IsPlain whole fraction) : ∃ c others,
    numeral.text = c :: others ∧ ∀ rest : List Char,
      Lead.of c (others ++ rest).head? = .number := by
  obtain ⟨c, others, isText, digit⟩ := plain.exists_digit
  rcases plain.sign with none | minus
  · refine ⟨c, others, ?_, fun rest => Lead.of_digit digit _⟩
    rw [Numeral.text, none, isText]
    rfl
  · refine ⟨'-', c :: others, ?_, fun rest => Lead.of_minus digit⟩
    rw [Numeral.text, minus, isText]
    rfl

/-- A plain number that denotes a value is the word of this value. -/
theorem readsAs (plain : numeral.IsPlain whole fraction) {denoted : Value}
    (isValue : numeral.value = .ok denoted) {rest : List Char} (detached : IsDetached rest) :
    ReadsAs numeral.text ⟨.value (if numeral.isFloat then .float else .integer), some denoted⟩
      rest := by
  obtain ⟨c, others, text, lead⟩ := plain.exists_lead
  have read := plain.read_append detached
  have behind : ((numeral.text ++ rest).drop numeral.text.length).takeWhile isWordChar = [] := by
    rw [List.drop_left]
    exact detached.takeWhile (by decide) (by decide)
  have isRead : Lexeme.read c (others ++ rest) =
      ⟨.value (if numeral.isFloat then .float else .integer), some denoted, numeral.text.length,
        0⟩ := by
    rw [Lexeme.read, lead rest, ← List.cons_append, ← text]
    simp only [Lexeme.readNumber, read, behind, ne_eq, not_true, if_false, isValue]
  refine ⟨⟨c, others, text, ?_, ?_⟩, ?_⟩
  · rw [isRead]
    rfl
  · rw [isRead]
  · simp [ignoredKinds]

end IsPlain

/-- Digits alone denote an integer. -/
theorem value_of_digits {numeral : Numeral} {whole : List Char}
    (body : numeral.body = .decimal whole none none) :
    numeral.value = numeral.integerValue 10 whole := by
  have isInteger : numeral.isFloat = false := by
    rw [isFloat, body]
    rfl
  rw [value, body]
  simp only [isInteger, Bool.false_eq_true, if_false]

/-- Digits on both sides of a point denote a float if their magnitude is finite. -/
theorem value_of_pointLiteral {numeral : Numeral} {whole fraction : List Char}
    (body : numeral.body = .decimal whole (some fraction) none)
    (finite : (decimal whole (some fraction) none).toMagnitude < Binary64.infinityBits) :
    numeral.value = .ok (.float (.ofMagnitude numeral.isNegative
      (decimal whole (some fraction) none).toMagnitude)) := by
  have isFloat : numeral.isFloat = true := by
    rw [isFloat, body]
    rfl
  rw [value, body]
  simp only [isFloat, if_true, if_pos finite]

end Numeral

/-- The written form of an integer. -/
def integerNumeral (number : Int64) : Numeral :=
  ⟨if number.toInt < 0 then some '-' else none,
    .decimal (Nat.toDigits 10 number.toInt.natAbs) none none⟩

/-- The text of an integer is its written form. -/
theorem toList_display_integer (number : Int64) :
    (Value.integer number).display.toList = (integerNumeral number).text := by
  rw [Value.display, Int.toString_eq_repr, Int.repr_eq_if, integerNumeral, Numeral.text,
    Digits.text]
  by_cases negative : number.toInt < 0
  · have magnitude : (-number.toInt).toNat = number.toInt.natAbs := by omega
    rw [if_neg (by omega), if_pos negative, magnitude]
    simp
  · have magnitude : number.toInt.toNat = number.toInt.natAbs := by omega
    rw [if_pos (by omega), if_neg negative, magnitude]
    simp

/-- An integer is the value of its written form. -/
theorem value_integerNumeral (number : Int64) :
    (integerNumeral number).value = .ok (.integer number) := by
  have signed : (if (integerNumeral number).isNegative then -(number.toInt.natAbs : Int)
      else number.toInt.natAbs) = number.toInt := by
    by_cases negative : number.toInt < 0
    · simp only [integerNumeral, Numeral.isNegative, if_pos negative, beq_self_eq_true, if_true]
      omega
    · simp [integerNumeral, Numeral.isNegative, negative]
      omega
  have body : (integerNumeral number).body =
      .decimal (Nat.toDigits 10 number.toInt.natAbs) none none := rfl
  rw [Numeral.value_of_digits body, Numeral.integerValue, digitsValue_toDigits, signedInteger?]
  simp only [signed]
  rw [if_pos ⟨number.minValue_le_toInt, number.toInt_le⟩, Int64.ofInt_toInt]

/-- The text of an integer in front of a detached text is the word of the integer. -/
theorem integer_readsAs (number : Int64) {rest : List Char} (detached : IsDetached rest) :
    ReadsAs (Value.integer number).display.toList
      ⟨.value .integer, some (.integer number)⟩ rest := by
  have plain : (integerNumeral number).IsPlain (Nat.toDigits 10 number.toInt.natAbs) none := by
    refine ⟨?_, rfl, Nat.toDigits_ne_nil, fun c => isDigit_of_mem_toDigits, ?_, ?_⟩
    · unfold integerNumeral
      by_cases negative : number.toInt < 0
      · exact .inr (if_pos negative)
      · exact .inl (if_neg negative)
    · rintro _ ⟨⟩
    · rintro _ ⟨⟩
  rw [toList_display_integer]
  exact plain.readsAs (value_integerNumeral number) detached

/-- The text of a finite float in front of a detached text is the word of the float. -/
theorem float_readsAs {number : Binary64} (finite : number.isFinite = true) {rest : List Char}
    (detached : IsDetached rest) :
    ReadsAs (Value.float number).display.toList ⟨.value .float, some (.float number)⟩ rest := by
  obtain ⟨characters, whole, fraction, isText, literal, magnitude⟩ :=
    Binary64.plainText_isPointLiteral finite
  let numeral : Numeral :=
    ⟨if number.isNegative then some '-' else none, .decimal whole (some fraction) none⟩
  have text : number.plainText.toList = numeral.text := by
    rw [isText, literal.split, Binary64.signText]
    simp only [numeral, Numeral.text, Digits.text]
    split <;> simp
  have plain : numeral.IsPlain whole (some fraction) := by
    refine ⟨?_, rfl, literal.wholeNonempty, literal.wholeDigits, ?_, ?_⟩
    · simp only [numeral]
      split
      · exact .inr rfl
      · exact .inl rfl
    · rintro _ ⟨rfl⟩
      exact literal.fractionNonempty
    · rintro _ ⟨rfl⟩
      exact literal.fractionDigits
  have isValue : numeral.value = .ok (.float number) := by
    have below :
        (Numeral.decimal whole (some fraction) none).toMagnitude < Binary64.infinityBits := by
      rw [magnitude]
      exact of_decide_eq_true finite
    have sign : numeral.isNegative = number.isNegative := by
      cases negative : number.isNegative <;> simp [numeral, Numeral.isNegative, negative]
    rw [Numeral.value_of_pointLiteral rfl below, magnitude, sign, Binary64.ofMagnitude_magnitude]
  rw [Value.display, text]
  exact plain.readsAs isValue detached

end BlockData
