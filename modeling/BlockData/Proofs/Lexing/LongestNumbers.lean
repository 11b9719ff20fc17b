import BlockData.Proofs.Lexing.Settled
import BlockData.Proofs.Lexing.Stream
import BlockData.Proofs.Number.Meaning

/-!
# Longest numbers

A literal is read as itself when nothing stands behind it (`Numeral.IsLiteral.read_text`), and
reading a number settles, so from a text that starts with a digit, or with a sign and a digit,
the longest literal in front is read and no other (`Numeral.isLongestAt_iff`). One call of
`next` gives what this literal denotes, unless it runs into a word (`Cursor.next_number`).
-/

namespace BlockData

/-- A text starts like a number: with a digit, or with a sign and a digit. -/
inductive StartsNumber : List Char → Prop
  | digit {c : Char} (isDigit : c.isDigit = true) (rest : List Char) : StartsNumber (c :: rest)
  | signed {sign c : Char} (isSign : sign ∈ signChars) (isDigit : c.isDigit = true)
      (rest : List Char) : StartsNumber (sign :: c :: rest)

/-- No literal in front of a text is longer. -/
structure Numeral.IsLongestAt (numeral : Numeral) (text : List Char) : Prop where
  isLiteral : numeral.IsLiteral
  inFront : numeral.text <+: text
  longest : ∀ other : Numeral, other.IsLiteral → other.text <+: text →
    other.text.length ≤ numeral.text.length

/-- A run starts with one of its characters. -/
theorem IsRun.exists_cons {p : Char → Bool} {run : List Char} (isRun : IsRun p run) :
    ∃ c others, run = c :: others ∧ p c = true := by
  obtain ⟨c, others, rfl⟩ := List.exists_cons_of_ne_nil isRun.1
  exact ⟨c, others, rfl, isRun.2 c List.mem_cons_self⟩

/-- Nothing is taken from a text that starts otherwise. -/
theorem takeWhile_eq_nil {p : Char → Bool} {rest : List Char}
    (stops : ∀ c ∈ rest.head?, p c = false) : rest.takeWhile p = [] := by
  cases rest with
  | nil => rfl
  | cons c others => rw [List.takeWhile_cons_of_neg (by simp [stops c rfl])]

/-- A run is taken up to a text that starts otherwise. -/
theorem IsRun.takeWhile_append {p : Char → Bool} {run rest : List Char} (isRun : IsRun p run)
    (stops : ∀ c ∈ rest.head?, p c = false) : (run ++ rest).takeWhile p = run := by
  rw [List.takeWhile_append_of_pos isRun.2, takeWhile_eq_nil stops, List.append_nil]

/-- A run is taken as a whole. -/
theorem IsRun.takeWhile_self {p : Char → Bool} {run : List Char} (isRun : IsRun p run) :
    run.takeWhile p = run :=
  List.takeWhile_eq_self_iff.mpr isRun.2

/-- What is taken is a run, if anything is. -/
theorem isRun_takeWhile {p : Char → Bool} {text : List Char} (nonempty : text.takeWhile p ≠ []) :
    IsRun p (text.takeWhile p) :=
  ⟨nonempty, fun _ => List.mem_takeWhile_imp⟩

/-- A sign is read as such in front of anything but another one. -/
theorem readSign_toList_append {sign : Option Char} {rest : List Char}
    (isSign : ∀ c ∈ sign, c ∈ signChars)
    (digit : ∃ c others, rest = c :: others ∧ c.isDigit = true) :
    readSign (sign.toList ++ rest) = (sign, rest) := by
  obtain ⟨c, others, rfl, isDigit⟩ := digit
  cases sign with
  | none => exact readSign_digit isDigit others
  | some sign =>
      rcases List.mem_pair.mp (isSign sign rfl) with rfl | rfl <;> rfl

/-- The literal of an exponent is read as itself. -/
theorem Exponent.IsLiteral.read_text {exponent : Exponent} (isLiteral : exponent.IsLiteral) :
    readExponent? exponent.text = some exponent := by
  have signed := readSign_toList_append isLiteral.sign isLiteral.digits.exists_cons
  rw [Exponent.text, readExponent?, if_pos isLiteral.mark]
  simp only [signed, isLiteral.digits.takeWhile_self]
  split
  · rename_i none
    exact absurd none isLiteral.digits.1
  · rfl

/-- A sign that is read is one. -/
theorem sign_of_readSign (text : List Char) : ∀ c ∈ (readSign text).1, c ∈ signChars := by
  intro c isSign
  unfold readSign at isSign
  split at isSign
  · cases isSign
    decide
  · cases isSign
    decide
  · cases isSign

/-- An exponent that is read is a literal. -/
theorem isLiteral_of_readExponent? {text : List Char} {exponent : Exponent}
    (read : readExponent? text = some exponent) : exponent.IsLiteral := by
  unfold readExponent? at read
  split at read
  · cases read
  · rename_i mark rest
    split at read
    · rename_i isMark
      dsimp only at read
      split at read
      · cases read
      · rename_i digits nonempty
        cases read
        exact ⟨isMark, sign_of_readSign rest, isRun_takeWhile nonempty⟩
    · cases read

/-- What stands behind the digits of a literal starts neither with a digit nor with the letter
of hexadecimal literals. -/
theorem starts_behind_digits (fraction : Option (List Char)) {exponent : Option Exponent}
    (isExponent : ∀ written ∈ exponent, written.IsLiteral) :
    ∀ c ∈ ((fraction.elim [] fun digits => '.' :: digits) ++
      exponent.elim [] Exponent.text).head?, c.isDigit = false ∧ c ≠ 'x' ∧ c ≠ 'X' := by
  intro c isHead
  cases fraction with
  | some digits =>
      cases isHead
      decide
  | none =>
      cases exponent with
      | none => cases isHead
      | some written =>
          have isMark := (isExponent written rfl).mark
          cases isHead
          rcases isMark with mark | mark <;> rw [mark] <;> decide

/-- The fraction of a literal is read as itself. -/
theorem readFraction?_text {fraction : Option (List Char)} {exponent : Option Exponent}
    (isFraction : ∀ digits ∈ fraction, IsRun Char.isDigit digits)
    (isExponent : ∀ written ∈ exponent, written.IsLiteral) :
    readFraction? ((fraction.elim [] fun digits => '.' :: digits) ++
      exponent.elim [] Exponent.text) = fraction := by
  cases fraction with
  | none =>
      cases exponent with
      | none => rfl
      | some written =>
          have isMark := (isExponent written rfl).mark
          refine readFraction?_of_ne ?_ _
          rcases isMark with mark | mark <;> rw [mark] <;> decide
  | some digits =>
      have areDigits := isFraction digits rfl
      have stops : ∀ c ∈ (exponent.elim [] Exponent.text).head?, c.isDigit = false :=
        fun c isHead => (starts_behind_digits none isExponent c isHead).1
      have taken := areDigits.takeWhile_append stops
      rw [Option.elim_some, List.cons_append, readFraction?, taken]
      split
      · exact absurd rfl areDigits.1
      · rfl

namespace Digits

/-- A decimal literal is read as itself. -/
theorem readDecimal_text {whole : List Char} {fraction : Option (List Char)}
    {exponent : Option Exponent} (areDigits : IsRun Char.isDigit whole)
    (isFraction : ∀ digits ∈ fraction, IsRun Char.isDigit digits)
    (isExponent : ∀ written ∈ exponent, written.IsLiteral) :
    readDecimal (Digits.decimal whole fraction exponent).text =
      .decimal whole fraction exponent := by
  have stops := fun c isHead => (starts_behind_digits fraction isExponent c isHead).1
  have taken := areDigits.takeWhile_append stops
  have isFractionRead := readFraction?_text isFraction isExponent
  have behind : ((fraction.elim [] fun digits => '.' :: digits) ++
      exponent.elim [] Exponent.text).drop (fraction.elim 0 fun digits => digits.length + 1) =
        exponent.elim [] Exponent.text := by
    rw [← length_fraction, List.drop_left]
  have isExponentRead : readExponent? (exponent.elim [] Exponent.text) = exponent := by
    cases exponent with
    | none => rfl
    | some written => exact (isExponent written rfl).read_text
  rw [Digits.text, List.append_assoc, readDecimal]
  simp only [dropWhile_eq_drop, taken, List.drop_left, isFractionRead, behind, isExponentRead]

/-- A literal without a sign is read as itself. -/
theorem IsLiteral.read_text {digits : Digits} (isLiteral : digits.IsLiteral) :
    read digits.text = digits := by
  cases isLiteral with
  | hexadecimal isMark areDigits =>
      rw [Digits.text, read_zero_cons, areDigits.takeWhile_self, if_pos ⟨isMark, areDigits.1⟩]
  | @decimal whole fraction exponent areDigits isFraction isExponent =>
      have decimal := readDecimal_text areDigits isFraction isExponent
      have behind := starts_behind_digits fraction isExponent
      obtain ⟨c, others, rfl, -⟩ := areDigits.exists_cons
      refine Eq.trans ?_ decimal
      rw [Digits.text, List.append_assoc]
      refine read_eq_readDecimal fun mark isHead => ?_
      cases others with
      | nil => exact (behind mark isHead).2
      | cons d others =>
          cases isHead
          have digit : mark.isDigit = true := areDigits.2 mark (by simp)
          constructor <;> rintro rfl <;> cases digit

/-- A decimal that is read from a digit on is a literal. -/
theorem isLiteral_readDecimal {c : Char} (digit : c.isDigit = true) (rest : List Char) :
    (readDecimal (c :: rest)).IsLiteral := by
  refine .decimal (isRun_takeWhile (by simp [digit])) ?_ ?_
  · intro digits isFraction
    unfold readFraction? at isFraction
    split at isFraction
    · split at isFraction
      · cases isFraction
      · rename_i nonempty
        cases isFraction
        exact isRun_takeWhile nonempty
    · cases isFraction
  · exact fun written => isLiteral_of_readExponent?

/-- What is read from a digit on is a literal. -/
theorem isLiteral_read {c : Char} (digit : c.isDigit = true) (rest : List Char) :
    (read (c :: rest)).IsLiteral := by
  unfold read
  split
  · split
    · rename_i hexadecimal
      exact .hexadecimal hexadecimal.1 (isRun_takeWhile hexadecimal.2)
    · exact isLiteral_readDecimal digit _
  · exact isLiteral_readDecimal digit _

/-- A literal starts with a digit. -/
theorem IsLiteral.exists_cons {digits : Digits} (isLiteral : digits.IsLiteral) :
    ∃ c others, digits.text = c :: others ∧ c.isDigit = true := by
  cases isLiteral with
  | hexadecimal => exact ⟨_, _, rfl, rfl⟩
  | decimal areDigits =>
      obtain ⟨c, others, rfl, digit⟩ := areDigits.exists_cons
      exact ⟨c, _, rfl, digit⟩

end Digits

namespace Numeral

/-- A literal is read as itself. -/
theorem IsLiteral.read_text {numeral : Numeral} (isLiteral : numeral.IsLiteral) :
    read numeral.text = numeral := by
  have signed := readSign_toList_append isLiteral.sign isLiteral.body.exists_cons
  simp only [read, text, signed, isLiteral.body.read_text]

/-- A literal has characters. -/
theorem IsLiteral.text_ne_nil {numeral : Numeral} (isLiteral : numeral.IsLiteral) :
    numeral.text ≠ [] := by
  obtain ⟨c, others, isText, -⟩ := isLiteral.body.exists_cons
  simp [text, isText]

/-- What is read from a text that starts like a number is a literal. -/
theorem isLiteral_read {text : List Char} (starts : StartsNumber text) :
    (read text).IsLiteral := by
  cases starts with
  | digit isDigit rest =>
      simp only [read, readSign_digit isDigit]
      refine ⟨?_, Digits.isLiteral_read isDigit rest⟩
      rintro _ ⟨⟩
  | @signed sign c isSign isDigit rest =>
      have signed : readSign (sign :: c :: rest) = (some sign, c :: rest) := by
        rcases List.mem_pair.mp isSign with rfl | rfl <;> rfl
      simp only [read, signed]
      refine ⟨?_, Digits.isLiteral_read isDigit rest⟩
      rintro _ ⟨rfl⟩
      exact isSign

/-- A literal in front of a text that is no shorter than what is read is what is read. -/
theorem read_eq_of_inFront {numeral : Numeral} {text : List Char} (isLiteral : numeral.IsLiteral)
    (inFront : numeral.text <+: text) (long : (read text).text.length ≤ numeral.text.length) :
    read text = numeral := by
  obtain ⟨rest, rfl⟩ := inFront
  have nothing : IsSeparated [] := by rintro c ⟨⟩
  calc read (numeral.text ++ rest)
      = read (numeral.text ++ []) := (read_settles isLiteral.text_ne_nil long nothing).symm
    _ = numeral := by rw [List.append_nil, isLiteral.read_text]

/-- The longest literal in front of a text that starts like a number is what is read. -/
theorem isLongestAt_iff {numeral : Numeral} {text : List Char} (starts : StartsNumber text) :
    numeral.IsLongestAt text ↔ numeral = read text := by
  constructor
  · intro isLongest
    have notLonger := isLongest.longest _ (isLiteral_read starts) (read_isPrefix text)
    exact (read_eq_of_inFront isLongest.isLiteral isLongest.inFront notLonger).symm
  · rintro rfl
    refine ⟨isLiteral_read starts, read_isPrefix text, fun other isLiteral inFront => ?_⟩
    by_contra longer
    have same := read_eq_of_inFront isLiteral inFront (by omega)
    rw [same] at longer
    exact longer (Nat.le_refl _)

end Numeral

/-- What starts like a number is led by one. -/
theorem StartsNumber.lead {c : Char} {rest : List Char} (starts : StartsNumber (c :: rest)) :
    Lead.of c rest.head? = .number := by
  cases starts with
  | digit isDigit => exact Lead.of_digit isDigit _
  | signed isSign isDigit =>
      rcases List.mem_pair.mp isSign with rfl | rfl
      · have single : singleKind? '+' = none := rfl
        simp [Lead.of, single, isDigit]
      · exact Lead.of_minus isDigit

namespace Lexeme

/-- A number that runs into a word is invalid, and it is reported with the whole word. -/
theorem readNumber_of_word {text : List Char}
    (word : (text.drop (Numeral.read text).text.length).head?.any isWordChar = true) :
    let characters := (Numeral.read text).text ++
      (text.drop (Numeral.read text).text.length).takeWhile isWordChar
    readNumber text = malformed (.invalidNumber characters) characters.length 0 := by
  have glued : (text.drop (Numeral.read text).text.length).takeWhile isWordChar ≠ [] := by
    cases behind : text.drop (Numeral.read text).text.length with
    | nil => simp [behind] at word
    | cons c rest => simpa [behind] using word
  exact if_pos glued

/-- Any other number is read as its meaning. -/
theorem readNumber_of_no_word {text : List Char}
    (noWord : (text.drop (Numeral.read text).text.length).head?.any isWordChar = false) :
    readNumber text = ⟨(Numeral.read text).meaning.1, some (Numeral.read text).meaning.2,
      (Numeral.read text).text.length, 0⟩ := by
  have unglued : (text.drop (Numeral.read text).text.length).takeWhile isWordChar = [] := by
    refine takeWhile_eq_nil fun c isHead => ?_
    rwa [Option.mem_def.mp isHead] at noWord
  simp only [readNumber, unglued, ne_eq, not_true, if_false, Numeral.meaning]
  cases (Numeral.read text).value <;> rfl

end Lexeme

/-- Number literals are read exactly. Where a text starts like a number, one literal in front
is the longest. If a word character stands behind it, one call of `next` reports an invalid
number, with the literal and the whole run of word characters. Otherwise the call reads the
characters of the literal and no more, and gives what the literal denotes: the integer or the
nearest float, or that it is out of range. -/
theorem Cursor.next_number {text : List Char} {offset : Nat}
    (starts : StartsNumber (text.drop offset)) :
    (∃! numeral : Numeral, numeral.IsLongestAt (text.drop offset)) ∧
    ∀ numeral : Numeral, numeral.IsLongestAt (text.drop offset) →
      let behind := text.drop (offset + numeral.text.length)
      let characters := numeral.text ++ behind.takeWhile isWordChar
      if behind.head?.any isWordChar then
        ReadsAt text offset .fail (.text s!"Invalid number: '{String.ofList characters}'")
          characters 0
      else
        (∃ kind value, numeral.Denotes kind value) ∧
        ∀ kind value, numeral.Denotes kind value →
          ReadsAt text offset kind value numeral.text 0 := by
  constructor
  · exact ⟨_, (Numeral.isLongestAt_iff starts).mpr rfl,
      fun other => (Numeral.isLongestAt_iff starts).mp⟩
  intro numeral isLongest
  obtain rfl := (Numeral.isLongestAt_iff starts).mp isLongest
  obtain ⟨c, rest, behind⟩ : ∃ c rest, text.drop offset = c :: rest := by
    generalize text.drop offset = front at starts
    cases starts <;> exact ⟨_, _, rfl⟩
  have isRead : Lexeme.read c rest = Lexeme.readNumber (c :: rest) := by
    rw [behind] at starts
    rw [Lexeme.read, starts.lead]
  simp only [← List.drop_drop]
  rw [← behind] at isRead
  split
  · rename_i word
    have inFront := Numeral.read_append_takeWhile_isPrefix (text.drop offset) isWordChar
    refine .of_read behind (behind ▸ inFront) (isRead.trans ?_)
    exact Lexeme.readNumber_of_word word
  · rename_i noWord
    refine ⟨⟨_, _, Numeral.denotes_meaning isLongest.isLiteral⟩, fun kind value denotes => ?_⟩
    obtain ⟨rfl, rfl⟩ := denotes.unique (Numeral.denotes_meaning isLongest.isLiteral)
    refine .of_read behind (behind ▸ isLongest.inFront) (isRead.trans ?_)
    exact Lexeme.readNumber_of_no_word (Bool.eq_false_iff.mpr noWord)

/-- A signed hexadecimal number is read up to the point behind it, and a number that runs into
a word is reported with it. -/
theorem Cursor.next_number_of_hexadecimal :
    ReadsAt "-0x10.5".toList 0 (.value .integer) (.integer (-16)) "-0x10".toList 0 ∧
    ReadsAt "(0x1fg_)".toList 1 .fail (.text "Invalid number: '0x1fg_'") "0x1fg_".toList 0 := by
  constructor
  · have starts : StartsNumber ("-0x10.5".toList.drop 0) := .signed (by decide) rfl _
    have isLongest := (Numeral.isLongestAt_iff starts).mpr rfl
    refine ((next_number starts).2 _ isLongest).2 _ _ (.integer rfl ?_)
    have sixteen : positional 16 ['1', '0'] = 16 := by decide
    change ((-16 : ℤ) : ℚ) = -1 * (positional 16 ['1', '0'] : ℚ)
    rw [sixteen]
    norm_num
  · have starts : StartsNumber ("(0x1fg_)".toList.drop 1) := .digit rfl _
    exact (next_number starts).2 _ ((Numeral.isLongestAt_iff starts).mpr rfl)

end BlockData
