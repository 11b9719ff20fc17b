import BlockData.Lexeme.Extent
import BlockData.Proofs.Lexing.Numbers

/-!
# Settled readings

Separators are characters that no word, number or operator goes on into. A reading from the
head of a text settles in front of them: if what it takes ends within some characters, then
it takes the same of these characters in front of any text that starts with a separator,
or of no text at all (`Settles`). Symbols and numbers look at one or two characters behind
their end, so this is more than that they take a head of the text.
-/

namespace BlockData

/-- The characters that symbols, numbers and operators end before, wherever they stand. -/
def separatorChars : List Char :=
  [' ', '\t', '\n', '\r', '\\', '#', ';', '\x7d', ')', ']']

/-- A text is empty or starts with a separator. -/
def IsSeparated (text : List Char) : Prop :=
  ∀ c ∈ text.head?, c ∈ separatorChars

/-- A text without characters is separated. -/
theorem isSeparated_nil : IsSeparated [] :=
  nofun

/-- A reading that ends within some characters takes the same of them in front of any
separated text. -/
def Settles {α : Type} (read : List Char → α) (extent : α → Nat) : Prop :=
  ∀ (front rest : List Char) {other : List Char}, extent (read (front ++ rest)) ≤ front.length →
    IsSeparated other → read (front ++ other) = read (front ++ rest)

/-- A text starts with no character of some, unless another text starts with it too. -/
def StartsOutside (p : Char → Bool) (other rest : List Char) : Prop :=
  ∀ c ∈ other.head?, p c = false ∨ rest.head? = some c

/-- A text without characters goes on with nothing. -/
theorem startsOutside_nil (p : Char → Bool) (rest : List Char) : StartsOutside p [] rest :=
  nofun

/-- Characters are taken in the same way in front of another text, if those that are taken
end before it and it does not go on with them. -/
theorem takeWhile_append_congr {p : Char → Bool} {front rest other : List Char}
    (within : ((front ++ rest).takeWhile p).length ≤ front.length)
    (stops : ((front ++ rest).takeWhile p).length = front.length → StartsOutside p other rest) :
    (front ++ other).takeWhile p = (front ++ rest).takeWhile p := by
  induction front with
  | nil =>
      have none : rest.takeWhile p = [] := List.length_eq_zero_iff.mp (Nat.le_zero.mp within)
      rw [List.nil_append, List.nil_append, none]
      cases other with
      | nil => rfl
      | cons c others =>
          rw [List.takeWhile_cons_of_neg]
          rcases stops (congrArg List.length none) c rfl with outside | same
          · exact Bool.eq_false_iff.mp outside
          · cases rest with
            | nil => cases same
            | cons d rest =>
                cases same
                exact fun inside => by simp [inside] at none
  | cons c front inductionHypothesis =>
      simp only [List.cons_append, List.takeWhile_cons] at within stops ⊢
      split
      · rename_i taken
        rw [if_pos taken] at within stops
        simp only [List.length_cons, Nat.add_le_add_iff_right, Nat.add_right_cancel_iff]
          at within stops
        rw [inductionHypothesis within stops]
      · rfl

/-- What holds for no separator does not hold for the first character of a separated text. -/
theorem IsSeparated.head_eq_false {text : List Char} {p : Char → Bool}
    (separated : IsSeparated text) (outside : ∀ c ∈ separatorChars, p c = false) :
    ∀ c ∈ text.head?, p c = false :=
  fun c isHead => outside c (separated c isHead)

/-- Taking characters settles if none of them is a separator. -/
theorem takeWhile_settles {p : Char → Bool} (outside : ∀ c ∈ separatorChars, p c = false) :
    Settles (List.takeWhile p) List.length :=
  fun _ _ _ within separated =>
    takeWhile_append_congr within fun _ c isHead => .inl (separated.head_eq_false outside c isHead)

/-- Nothing is taken from a separated text. -/
theorem IsSeparated.takeWhile_eq_nil {text : List Char} {p : Char → Bool}
    (separated : IsSeparated text) (outside : ∀ c ∈ separatorChars, p c = false) :
    text.takeWhile p = [] :=
  takeWhile_settles outside [] [] (Nat.le_refl 0) separated

/-- A reading that settles does so behind the first characters too. -/
theorem Settles.drop {α : Type} {read : List Char → α} {extent : α → Nat}
    (settles : Settles read extent) (front rest : List Char) {other : List Char} {count : Nat}
    (within : count + extent (read ((front ++ rest).drop count)) ≤ front.length)
    (separated : IsSeparated other) :
    read ((front ++ other).drop count) = read ((front ++ rest).drop count) := by
  have inside : count ≤ front.length := by omega
  rw [List.drop_append_of_le_length inside] at within
  rw [List.drop_append_of_le_length inside, List.drop_append_of_le_length inside]
  exact settles _ _ (by rw [List.length_drop]; omega) separated

/-- What is dropped is as long as what would be taken. -/
theorem dropWhile_eq_drop (p : Char → Bool) (text : List Char) :
    text.dropWhile p = text.drop (text.takeWhile p).length := by
  conv => rhs; arg 2; rw [← List.takeWhile_append_dropWhile (p := p) (l := text)]
  rw [List.drop_left]

/-- What holds for none of the separators, one by one. -/
theorem eq_false_of_separator {p : Char → Bool}
    (outside : separatorChars.all (fun c => !p c) = true) : ∀ c ∈ separatorChars, p c = false :=
  fun c member => by simpa using List.all_eq_true.mp outside c member

/-- No separator is a digit. -/
theorem isDigit_of_separator : ∀ c ∈ separatorChars, c.isDigit = false :=
  eq_false_of_separator (by decide)

/-- No separator is a hexadecimal digit. -/
theorem isHexDigit_of_separator : ∀ c ∈ separatorChars, isHexDigit c = false :=
  eq_false_of_separator (by decide)

/-- No separator belongs to words. -/
theorem isWordChar_of_separator : ∀ c ∈ separatorChars, isWordChar c = false :=
  eq_false_of_separator (by decide)

/-- No separator belongs to operators. -/
theorem isOperatorChar_of_separator : ∀ c ∈ separatorChars, isOperatorChar c = false :=
  eq_false_of_separator (by decide)

/-- No separator starts a fraction, an exponent or a sign, or continues a symbol. -/
theorem ne_of_separator : ∀ c ∈ separatorChars,
    c ≠ '.' ∧ c ≠ 'e' ∧ c ≠ 'E' ∧ c ≠ 'x' ∧ c ≠ 'X' ∧ c ≠ '+' ∧ c ≠ '-' ∧ c ≠ '?' ∧ c ≠ '!' := by
  simp [separatorChars]

/-- A fraction starts with a point only. -/
theorem readFraction?_of_ne {c : Char} (other : c ≠ '.') (rest : List Char) :
    readFraction? (c :: rest) = none := by
  unfold readFraction?
  split
  · rename_i same
    exact absurd (List.cons.inj same).1 other
  · rfl

/-- Reading a fraction settles. -/
theorem readFraction?_settles :
    Settles readFraction? fun fraction => fraction.elim 0 fun digits => digits.length + 1 := by
  intro front rest other within separated
  cases front with
  | nil =>
      have none : readFraction? rest = none := by
        cases found : readFraction? rest with
        | none => rfl
        | some digits => simp [found] at within
      rw [List.nil_append, List.nil_append, none]
      cases other with
      | nil => rfl
      | cons c others => exact readFraction?_of_ne (ne_of_separator c (separated c rfl)).1 others
  | cons c front =>
      by_cases point : c = '.'
      · subst point
        have taken : ((front ++ rest).takeWhile Char.isDigit).length ≤ front.length := by
          cases digits : (front ++ rest).takeWhile Char.isDigit with
          | nil => exact Nat.zero_le _
          | cons d others => simpa [readFraction?, digits] using within
        simp only [List.cons_append, readFraction?,
          takeWhile_settles isDigit_of_separator _ _ taken separated]
      · rw [List.cons_append, List.cons_append, readFraction?_of_ne point,
          readFraction?_of_ne point]

/-- The sign at the head of some characters, if there are any, does not depend on what
stands behind them. -/
theorem exists_readSign_append {front : List Char} (nonempty : front ≠ []) :
    ∃ sign unsigned, front = sign.toList ++ unsigned ∧
      ∀ rest, readSign (front ++ rest) = (sign, unsigned ++ rest) := by
  obtain ⟨c, front, rfl⟩ := List.exists_cons_of_ne_nil nonempty
  by_cases plus : c = '+'
  · exact ⟨some '+', front, by rw [plus]; rfl, fun rest => by rw [plus]; rfl⟩
  by_cases minus : c = '-'
  · exact ⟨some '-', front, by rw [minus]; rfl, fun rest => by rw [minus]; rfl⟩
  refine ⟨none, c :: front, rfl, fun rest => ?_⟩
  unfold readSign
  split <;> simp_all

/-- A separated text starts with no sign. -/
theorem IsSeparated.readSign_eq {text : List Char} (separated : IsSeparated text) :
    readSign text = (none, text) := by
  cases text with
  | nil => rfl
  | cons c rest =>
      have noSign := ne_of_separator c (separated c rfl)
      unfold readSign
      split <;> simp_all

/-- Reading an exponent settles. -/
theorem readExponent?_settles :
    Settles readExponent? fun exponent => exponent.elim 0 fun written => written.text.length := by
  intro front rest other within separated
  cases front with
  | nil =>
      have none : readExponent? rest = none := by
        cases found : readExponent? rest with
        | none => rfl
        | some exponent => simp [found, Exponent.text] at within
      rw [List.nil_append, List.nil_append, none]
      cases other with
      | nil => rfl
      | cons c others =>
          have noMark := ne_of_separator c (separated c rfl)
          simp [readExponent?, noMark]
  | cons mark front =>
      simp only [List.cons_append, readExponent?] at within ⊢
      split
      · rename_i isMark
        rw [if_pos isMark] at within
        by_cases nonempty : front = []
        · subst nonempty
          -- behind the mark alone nothing is taken on either side
          have none : (readSign rest).2.takeWhile Char.isDigit = [] := by
            cases digits : (readSign rest).2.takeWhile Char.isDigit with
            | nil => rfl
            | cons d others => simp [digits, Exponent.text] at within
          simp only [List.nil_append, separated.readSign_eq, none,
            separated.takeWhile_eq_nil isDigit_of_separator]
        · obtain ⟨sign, unsigned, isFront, signed⟩ := exists_readSign_append nonempty
          simp only [signed] at within ⊢
          have taken : ((unsigned ++ rest).takeWhile Char.isDigit).length ≤ unsigned.length := by
            cases digits : (unsigned ++ rest).takeWhile Char.isDigit with
            | nil => exact Nat.zero_le _
            | cons d others =>
                simp only [digits, Option.elim_some, Exponent.text, isFront, List.length_cons,
                  List.length_append] at within ⊢
                omega
          rw [takeWhile_settles isDigit_of_separator _ _ taken separated]
      · rfl

namespace Digits

/-- The point of a fraction counts as one of its characters. -/
theorem length_fraction (fraction : Option (List Char)) :
    (fraction.elim [] fun digits => '.' :: digits).length =
      fraction.elim 0 fun digits => digits.length + 1 := by
  cases fraction <;> rfl

/-- What is not written has no characters. -/
theorem length_exponent (exponent : Option Exponent) :
    (exponent.elim [] Exponent.text).length =
      exponent.elim 0 fun written => written.text.length := by
  cases exponent <;> rfl

/-- Reading a decimal literal settles. -/
theorem readDecimal_settles : Settles readDecimal fun digits => digits.text.length := by
  intro front rest other within separated
  simp only [readDecimal, dropWhile_eq_drop, List.drop_drop, Digits.text, List.length_append,
    length_fraction, length_exponent] at within ⊢
  -- the digits are taken from the front, and so are the fraction and the exponent behind them
  rw [takeWhile_settles isDigit_of_separator front rest (by omega) separated,
    readFraction?_settles.drop front rest (by omega) separated,
    readExponent?_settles.drop front rest (by omega) separated]

/-- Zero and a mark are hexadecimal before hexadecimal digits only. -/
theorem read_zero_cons (mark : Char) (rest : List Char) :
    read ('0' :: mark :: rest) =
      if (mark = 'x' ∨ mark = 'X') ∧ rest.takeWhile isHexDigit ≠ [] then
        .hexadecimal mark (rest.takeWhile isHexDigit)
      else readDecimal ('0' :: mark :: rest) := rfl

/-- What does not start with zero is decimal. -/
theorem read_eq_readDecimal_of_ne {c : Char} (other : c ≠ '0') (rest : List Char) :
    read (c :: rest) = readDecimal (c :: rest) := by
  unfold read
  split
  · rename_i same
    exact absurd (List.cons.inj same).1 other
  · rfl

/-- A literal of one character or none is decimal. -/
theorem read_eq_readDecimal_of_short {text : List Char} (short : (read text).text.length ≤ 1) :
    read text = readDecimal text := by
  unfold read at short ⊢
  split
  · split
    · rename_i hexadecimal
      simp only [if_pos hexadecimal, Digits.text, List.length_cons] at short
      omega
    · rfl
  · rfl

/-- Reading a literal without a sign settles. -/
theorem read_settles : Settles read fun digits => digits.text.length := by
  intro front rest other within separated
  match front with
  | [] =>
      have decimal := read_eq_readDecimal_of_short (Nat.le_succ_of_le within)
      rw [decimal] at within ⊢
      rw [← readDecimal_settles _ _ within separated]
      cases other with
      | nil => rfl
      | cons c others =>
          refine read_eq_readDecimal_of_ne ?_ others
          rintro rfl
          exact absurd (separated '0' rfl) (by decide)
  | [c] =>
      have decimal := read_eq_readDecimal_of_short within
      rw [decimal] at within ⊢
      rw [← readDecimal_settles _ _ within separated]
      refine read_eq_readDecimal fun mark isHead => ?_
      simp [ne_of_separator mark (separated mark isHead)]
  | c :: mark :: front =>
      by_cases zero : c = '0'
      · subst zero
        simp only [List.cons_append, read_zero_cons] at within ⊢
        have taken : mark = 'x' ∨ mark = 'X' →
            (front ++ other).takeWhile isHexDigit = (front ++ rest).takeWhile isHexDigit := by
          intro isMark
          refine takeWhile_settles isHexDigit_of_separator front rest ?_ separated
          cases digits : (front ++ rest).takeWhile isHexDigit with
          | nil => exact Nat.zero_le _
          | cons d others => simpa [digits, isMark, Digits.text] using within
        by_cases isMark : mark = 'x' ∨ mark = 'X'
        · rw [taken isMark]
          split
          · rfl
          · rename_i decimal
            rw [if_neg decimal] at within
            exact readDecimal_settles ('0' :: mark :: front) rest within separated
        · simp only [isMark, false_and, if_false] at within ⊢
          exact readDecimal_settles ('0' :: mark :: front) rest within separated
      · rw [List.cons_append, read_eq_readDecimal_of_ne zero] at within
        simp only [List.cons_append, read_eq_readDecimal_of_ne zero]
        exact readDecimal_settles (c :: mark :: front) rest within separated

end Digits

/-- Reading a number from some characters on settles. -/
theorem Numeral.read_settles {front rest other : List Char} (nonempty : front ≠ [])
    (within : (Numeral.read (front ++ rest)).text.length ≤ front.length)
    (separated : IsSeparated other) :
    Numeral.read (front ++ other) = Numeral.read (front ++ rest) := by
  obtain ⟨sign, unsigned, isFront, signed⟩ := exists_readSign_append nonempty
  simp only [Numeral.read, Numeral.text, signed, List.length_append] at within ⊢
  rw [isFront, List.length_append] at within
  rw [Digits.read_settles unsigned rest (Nat.le_of_add_le_add_left within) separated]

/-- A letter or a numeric character belongs to a symbol. -/
theorem symbolRun_pos {text : List Char} (letter : text.head?.any Character.isAlphanumeric = true) :
    0 < symbolRun text := by
  cases text with
  | nil => cases letter
  | cons c rest =>
      have word : isWordChar c = true := by
        rw [isWordChar, Bool.or_eq_true]
        exact .inl letter
      rw [symbolRun, if_pos (.inl word)]
      exact Nat.succ_pos _

/-- A separated text starts with no letter. -/
theorem IsSeparated.head_any_isAlphanumeric {text : List Char} (separated : IsSeparated text) :
    text.head?.any Character.isAlphanumeric = false := by
  cases text with
  | nil => rfl
  | cons c rest =>
      have noWord := isWordChar_of_separator c (separated c rfl)
      rw [isWordChar, Bool.or_eq_false_iff] at noWord
      exact noWord.1

/-- Reading the rest of a symbol settles. -/
theorem symbolRun_settles : Settles symbolRun id := by
  intro front rest other within separated
  induction front with
  | nil =>
      have none : symbolRun rest = 0 := Nat.le_zero.mp within
      rw [List.nil_append, List.nil_append, none]
      cases other with
      | nil => rfl
      | cons c others =>
          have isNone := ne_of_separator c (separated c rfl)
          simp [symbolRun, isWordChar_of_separator c (separated c rfl), isNone]
  | cons c front inductionHypothesis =>
      have sameHead : (c = '-' ∧ (front ++ other).head?.any Character.isAlphanumeric) ↔
          (c = '-' ∧ (front ++ rest).head?.any Character.isAlphanumeric) := by
        cases front with
        | cons d front => rfl
        | nil =>
            constructor
            · rintro ⟨-, letter⟩
              exact absurd letter (Bool.eq_false_iff.mp separated.head_any_isAlphanumeric)
            · -- the letter behind a hyphen would be one character too many
              rintro ⟨hyphen, letter⟩
              have positive := symbolRun_pos letter
              rw [List.nil_append] at letter positive
              simp only [List.cons_append, List.nil_append, symbolRun, hyphen, letter, and_self,
                or_true, if_true, id_eq, List.length_cons, List.length_nil] at within
              omega
      simp only [List.cons_append, symbolRun, sameHead] at within ⊢
      split
      · rename_i continued
        rw [if_pos continued] at within
        rw [inductionHypothesis (Nat.le_of_succ_le_succ within)]
      · rfl

/-- A character other than a backslash stands for itself, unless it is the closing quote. -/
theorem readQuoted_cons_of_ne {quote c : Char} (noBackslash : c ≠ '\\') (rest : List Char) :
    readQuoted quote (c :: rest) =
      if c = quote then .closed [] 1 else (readQuoted quote rest).after 1 c := by
  rw [readQuoted]
  all_goals simp [noBackslash]

/-- A character that neither stands at the end nor before another one as a backslash is none. -/
theorem ne_backslash_of_reads {c : Char} {rest : List Char} (noEnd : c = '\\' → rest = [] → False)
    (noEscape : ∀ d others, c = '\\' → rest = d :: others → False) : c ≠ '\\' := by
  intro backslash
  cases rest with
  | nil => exact noEnd backslash rfl
  | cons d others => exact noEscape d others backslash rfl

/-- Whether a reading of quoted text ends in front of the end of the text. -/
def QuotedReading.isDecided : QuotedReading → Bool
  | .closed _ _ => true
  | .unknownEscape _ _ => true
  | _ => false

/-- A reading that starts earlier ends where the reading does. -/
@[simp] theorem QuotedReading.isDecided_after (width : Nat) (c : Char) (reading : QuotedReading) :
    (reading.after width c).isDecided = reading.isDecided := by
  cases reading <;> rfl

/-- A reading that starts earlier needs as many more characters, unless the text ends. -/
theorem QuotedReading.extent_after {reading : QuotedReading} (decided : reading.isDecided = true)
    (width : Nat) (c : Char) : (reading.after width c).extent = reading.extent + width := by
  cases reading with
  | closed => rfl
  | unknownEscape => exact Nat.add_right_comm ..
  | _ => cases decided

/-- Characters that are long enough hold all of what their text starts with. -/
theorem exists_eq_append_of_length_le {front rest first others : List Char}
    (whole : front ++ rest = first ++ others) (within : first.length ≤ front.length) :
    ∃ behind, front = first ++ behind := by
  obtain ⟨behind, isFront⟩ := List.prefix_of_prefix_length_le ⟨others, whole.symm⟩
    (List.prefix_append front rest) within
  exact ⟨behind, isFront.symm⟩

/-- A reading of quoted text that ends within some characters is the same in front of any
text. -/
theorem readQuoted_congr {quote : Char} {front rest : List Char}
    (decided : (readQuoted quote (front ++ rest)).isDecided = true)
    (within : (readQuoted quote (front ++ rest)).extent ≤ front.length) (other : List Char) :
    readQuoted quote (front ++ other) = readQuoted quote (front ++ rest) := by
  generalize whole : front ++ rest = text at decided within ⊢
  fun_induction readQuoted quote text generalizing front with
  | case1 => cases decided
  | case2 => cases decided
  | case3 c others meant isEscape inductionHypothesis =>
      rw [QuotedReading.isDecided_after] at decided
      rw [QuotedReading.extent_after decided] at within
      obtain ⟨front, rfl⟩ : ∃ behind, front = ['\\', c] ++ behind :=
        exists_eq_append_of_length_le whole (Nat.le_trans (Nat.le_add_left 2 _) within)
      obtain rfl : front ++ rest = others := (List.cons.inj (List.cons.inj whole).2).2
      have behind := inductionHypothesis rfl decided (Nat.le_of_add_le_add_right within)
      simp only [List.cons_append, List.nil_append, readQuoted, isEscape, behind]
  | case4 c others noEscape =>
      obtain ⟨front, rfl⟩ : ∃ behind, front = ['\\', c] ++ behind :=
        exists_eq_append_of_length_le whole within
      cases whole
      simp only [List.cons_append, List.nil_append, readQuoted, noEscape]
  | case5 others noEnd noEscape =>
      obtain ⟨front, rfl⟩ : ∃ behind, front = [quote] ++ behind :=
        exists_eq_append_of_length_le whole within
      cases whole
      rw [List.singleton_append, List.cons_append,
        readQuoted_cons_of_ne (ne_backslash_of_reads noEnd noEscape), if_pos rfl]
  | case6 c others noEnd noEscape noQuote inductionHypothesis =>
      rw [QuotedReading.isDecided_after] at decided
      rw [QuotedReading.extent_after decided] at within
      obtain ⟨front, rfl⟩ : ∃ behind, front = [c] ++ behind :=
        exists_eq_append_of_length_le whole (Nat.le_trans (Nat.le_add_left 1 _) within)
      obtain rfl : front ++ rest = others := (List.cons.inj whole).2
      have behind := inductionHypothesis rfl decided (Nat.le_of_add_le_add_right within)
      rw [List.singleton_append, List.cons_append,
        readQuoted_cons_of_ne (ne_backslash_of_reads noEnd noEscape), if_neg noQuote, behind]

/-- A line break is a line feed, or a carriage return with the line feed behind it. -/
theorem lineBreakLength_cons (c : Char) (rest : List Char) :
    lineBreakLength (c :: rest) =
      if c = '\n' then 1
      else if c = '\r' then (if rest.head? = some '\n' then 2 else 1)
      else 0 := by
  by_cases breaks : c = '\n' ∨ c = '\r'
  · rcases breaks with rfl | rfl
    · rfl
    · cases rest with
      | nil => rfl
      | cons d rest =>
          by_cases lineFeed : d = '\n'
          · rw [lineFeed]
            rfl
          · have alone : lineBreakLength ('\r' :: d :: rest) = 1 := by
              unfold lineBreakLength
              split <;> simp_all
            simp [alone, lineFeed]
  · rw [not_or] at breaks
    rw [if_neg breaks.1, if_neg breaks.2]
    unfold lineBreakLength
    split <;> simp_all

/-- The first line break of some characters is the same in front of another text, if it
ends before it and does not go on there. -/
theorem lineBreakLength_congr {front rest other : List Char} (nonempty : front ≠ [])
    (within : lineBreakLength (front ++ rest) ≤ front.length)
    (stops : lineBreakLength (front ++ rest) = front.length →
      StartsOutside (· == '\n') other rest) :
    lineBreakLength (front ++ other) = lineBreakLength (front ++ rest) := by
  match front with
  | [c] =>
      simp only [List.cons_append, List.nil_append, lineBreakLength_cons] at within stops ⊢
      split
      · rfl
      split
      · rename_i noLineFeed carriageReturn
        rw [if_neg noLineFeed, if_pos carriageReturn] at within stops
        have restIsNone : rest.head? ≠ some '\n' := by
          intro lineFeed
          simp [lineFeed] at within
        have otherIsNone : other.head? ≠ some '\n' := by
          intro lineFeed
          rcases stops (if_neg restIsNone) '\n' lineFeed with outside | same
          · cases outside
          · exact restIsNone same
        rw [if_neg restIsNone, if_neg otherIsNone]
      · rfl
  | c :: d :: front =>
      simp only [List.cons_append, lineBreakLength_cons, List.head?_cons]
      rfl

end BlockData
