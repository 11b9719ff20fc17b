import BlockData.Lexeme.Reading

/-!
# The extent of lexemes

Every lexeme has at least one character, malformed ones included, so reading
lexeme after lexeme reaches the end of every text. It has no more characters than
there are, so every lexeme is a piece of its text; a number is the head of the
text that it is read from.
-/

namespace BlockData

/-- A text is led by a line break only at a line feed or a carriage return. -/
theorem Lead.of_eq_lineBreak {c : Char} {next : Option Char} (lead : Lead.of c next = .lineBreak) :
    c = '\n' ∨ c = '\r' := by
  by_cases blank : c = ' ' ∨ c = '\t'
  · simp [Lead.of, blank] at lead
  · by_cases lineEnd : c = '\n' ∨ c = '\r'
    · exact lineEnd
    · simp only [Lead.of, blank, lineEnd, if_false] at lead
      split at lead
      · cases lead
      · split at lead
        · cases lead
        · repeat' split at lead
          all_goals cases lead

/-- A text is led by a number only at a digit or a sign. -/
theorem Lead.of_eq_number {c : Char} {next : Option Char} (lead : Lead.of c next = .number) :
    c.isDigit = true ∨ c = '+' ∨ c = '-' := by
  unfold Lead.of at lead
  split at lead
  · cases lead
  split at lead
  · cases lead
  split at lead
  · cases lead
  split at lead
  · cases lead
  split at lead
  · cases lead
  split at lead
  · cases lead
  split at lead
  · rename_i numeric
    rcases numeric with digit | ⟨sign, _⟩
    · exact .inl digit
    · exact .inr sign
  · repeat' split at lead
    all_goals cases lead

/-- A number at a digit or a sign has a first character. -/
theorem Numeral.read_text_ne_nil {c : Char} {rest : List Char}
    (lead : c.isDigit = true ∨ c = '+' ∨ c = '-') : (Numeral.read (c :: rest)).text ≠ [] := by
  by_cases plus : c = '+'
  · simp [Numeral.read, Numeral.text, readSign, plus]
  by_cases minus : c = '-'
  · simp [Numeral.read, Numeral.text, readSign, minus]
  have digit : c.isDigit = true := by simpa [plus, minus] using lead
  have unsigned : readSign (c :: rest) = (none, c :: rest) := by
    unfold readSign
    split <;> simp_all
  have decimal : (Digits.readDecimal (c :: rest)).text ≠ [] := by
    simp [Digits.readDecimal, Digits.text, digit]
  simp only [Numeral.read, unsigned, Numeral.text, Option.toList_none, List.nil_append]
  unfold Digits.read
  split
  · split
    · simp [Digits.text]
    · exact decimal
  · exact decimal

/-- Every lexeme has at least one character. -/
theorem Lexeme.read_length_pos (c : Char) (rest : List Char) : 0 < (Lexeme.read c rest).length := by
  unfold Lexeme.read
  split
  case h_1 => simp [plain]
  case h_2 lead =>
    rcases Lead.of_eq_lineBreak lead with rfl | rfl
    · simp [plain, lineBreakLength]
    · unfold lineBreakLength
      split <;> simp_all [plain]
  case h_3 =>
    unfold readContinuation
    split <;> simp [malformed, plain]
  case h_4 => simp [plain]
  case h_5 => simp [readComment, texted]
  case h_6 =>
    unfold readString
    split <;> simp [malformed, texted]
  case h_7 lead =>
    have nonempty : 0 < (Numeral.read (c :: rest)).text.length :=
      List.length_pos_iff.mpr (Numeral.read_text_ne_nil (Lead.of_eq_number lead))
    unfold readNumber
    dsimp only
    split
    · simp only [malformed, List.length_append]
      omega
    · split <;> exact nonempty
  case h_8 => simp [texted]
  case h_9 => simp [texted]
  case h_10 => simp [malformed]

/-- A line break is part of its text. -/
theorem lineBreakLength_le (text : List Char) : lineBreakLength text ≤ text.length := by
  unfold lineBreakLength
  split <;> simp

/-- The characters that continue a symbol are part of their text. -/
theorem symbolRun_le (text : List Char) : symbolRun text ≤ text.length := by
  induction text with
  | nil => exact Nat.le_refl _
  | cons c rest inductionHypothesis =>
      rw [symbolRun]
      split
      · simpa using inductionHypothesis
      · exact Nat.zero_le _

/-- How many characters a reading of quoted text needs behind the quote. -/
def QuotedReading.extent : QuotedReading → Nat
  | .closed _ length => length
  | .unterminated => 0
  | .unterminatedEscape place => place + 1
  | .unknownEscape place _ => place + 2

/-- A reading that starts earlier needs as many more characters. -/
theorem QuotedReading.extent_after_le (width : Nat) (c : Char) (reading : QuotedReading) :
    (reading.after width c).extent ≤ reading.extent + width := by
  cases reading with
  | closed => exact Nat.le_refl _
  | unterminated => exact Nat.zero_le _
  | unterminatedEscape =>
      simp only [after, extent]
      omega
  | unknownEscape =>
      simp only [after, extent]
      omega

/-- A reading of quoted text needs no more characters than there are. -/
theorem readQuoted_extent_le (quote : Char) (text : List Char) :
    (readQuoted quote text).extent ≤ text.length := by
  fun_induction readQuoted quote text with
  | case1 => exact Nat.le_refl _
  | case2 => exact Nat.le_refl _
  | case3 c rest meant _ inductionHypothesis =>
      have := (readQuoted quote rest).extent_after_le 2 meant
      simp only [List.length_cons]
      omega
  | case4 => simp [QuotedReading.extent]
  | case5 => simp [QuotedReading.extent]
  | case6 c rest _ _ _ inductionHypothesis =>
      have := (readQuoted quote rest).extent_after_le 1 c
      simp only [List.length_cons]
      omega

/-- A sign and the text behind it are the whole text. -/
theorem readSign_append (text : List Char) :
    (readSign text).1.toList ++ (readSign text).2 = text := by
  unfold readSign
  split <;> rfl

/-- A fraction is the head of its text. -/
theorem readFraction?_isPrefix {text digits : List Char} (read : readFraction? text = some digits) :
    '.' :: digits <+: text := by
  unfold readFraction? at read
  split at read
  · rename_i rest
    split at read
    · cases read
    · cases read
      exact List.cons_prefix_cons.mpr ⟨rfl, List.takeWhile_prefix _⟩
  · cases read

/-- An exponent is the head of its text. -/
theorem readExponent?_isPrefix {text : List Char} {exponent : Exponent}
    (read : readExponent? text = some exponent) : exponent.text <+: text := by
  unfold readExponent? at read
  split at read
  · cases read
  · rename_i mark rest
    split at read
    · dsimp only at read
      split at read
      · cases read
      · cases read
        refine List.cons_prefix_cons.mpr ⟨rfl, ?_⟩
        conv => rhs; rw [← readSign_append rest]
        exact (List.prefix_append_right_inj _).mpr <| List.takeWhile_prefix _
    · cases read

/-- The characters of a fraction and the text behind them are the whole text. -/
theorem readFraction?_append (text : List Char) :
    ((readFraction? text).elim [] fun digits => '.' :: digits) ++
      text.drop ((readFraction? text).elim 0 fun digits => digits.length + 1) = text := by
  cases read : readFraction? text with
  | none => rfl
  | some digits =>
      obtain ⟨rest, rfl⟩ := readFraction?_isPrefix read
      simp

/-- A decimal literal is the head of its text. -/
theorem Digits.readDecimal_isPrefix (text : List Char) : (readDecimal text).text <+: text := by
  have whole : text.takeWhile Char.isDigit ++ text.dropWhile Char.isDigit = text :=
    List.takeWhile_append_dropWhile
  have behind := readFraction?_append (text.dropWhile Char.isDigit)
  simp only [readDecimal, Digits.text, List.append_assoc]
  conv => rhs; rw [← whole]
  refine (List.prefix_append_right_inj _).mpr ?_
  conv => rhs; rw [← behind]
  refine (List.prefix_append_right_inj _).mpr ?_
  cases read : readExponent? ((text.dropWhile Char.isDigit).drop
      ((readFraction? (text.dropWhile Char.isDigit)).elim 0 fun digits => digits.length + 1)) with
  | none => exact List.nil_prefix
  | some exponent => exact readExponent?_isPrefix read

/-- A literal without a sign is the head of its text. -/
theorem Digits.read_isPrefix (text : List Char) : (Digits.read text).text <+: text := by
  unfold Digits.read
  split
  · split
    · simpa [Digits.text] using List.takeWhile_prefix isHexDigit
    · exact readDecimal_isPrefix _
  · exact readDecimal_isPrefix _

/-- A number is the head of its text. -/
theorem Numeral.read_isPrefix (text : List Char) : (Numeral.read text).text <+: text := by
  simp only [Numeral.read, Numeral.text]
  conv => rhs; rw [← readSign_append text]
  exact (List.prefix_append_right_inj _).mpr (Digits.read_isPrefix _)

/-- A number and the word that it runs into are the head of their text. -/
theorem Numeral.read_append_takeWhile_isPrefix (text : List Char) (p : Char → Bool) :
    (Numeral.read text).text ++ (text.drop (Numeral.read text).text.length).takeWhile p <+:
      text := by
  obtain ⟨rest, whole⟩ := Numeral.read_isPrefix text
  have remaining : text.drop (Numeral.read text).text.length = rest := by
    conv => lhs; arg 2; rw [← whole]
    exact List.drop_left
  rw [remaining]
  conv => rhs; rw [← whole]
  exact (List.prefix_append_right_inj _).mpr (List.takeWhile_prefix p)

/-- No lexeme has more characters than there are. -/
theorem Lexeme.read_length_le (c : Char) (rest : List Char) :
    (Lexeme.read c rest).length ≤ rest.length + 1 := by
  unfold Lexeme.read
  split
  case h_1 => simpa [plain] using (List.takeWhile_sublist _).length_le
  case h_2 => simpa [plain] using lineBreakLength_le (c :: rest)
  case h_3 =>
    have within := lineBreakLength_le rest
    unfold readContinuation
    split
    · simp [malformed]
    · simp only [plain]
      omega
  case h_4 => simp [plain]
  case h_5 => simpa [readComment, texted] using (List.takeWhile_sublist _).length_le
  case h_6 =>
    have within := readQuoted_extent_le c rest
    unfold readString
    split <;> simp_all [malformed, texted, QuotedReading.extent]
  case h_7 =>
    have within := (Numeral.read_append_takeWhile_isPrefix (c :: rest) isWordChar).length_le
    simp only [List.length_append, List.length_cons] at within
    unfold readNumber
    dsimp only
    split
    · simpa [malformed] using within
    · split
      · simp only
        omega
      · simp only [malformed]
        omega
  case h_8 => simpa [texted] using symbolRun_le rest
  case h_9 => simpa [texted] using (List.takeWhile_sublist _).length_le
  case h_10 => simp [malformed]

end BlockData
