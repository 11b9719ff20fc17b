import BlockData.Proofs.Lexing.Words

/-!
# What flaws say

What a token says about the characters that it was read from. Words and operators are the
characters themselves, and so is what the report of a bad number quotes (`Word.Quotes`). A
flaw is reported at the start of its lexeme, except for a bad escape, which is reported at
its backslash (`Lexeme.Reported`). The reports of bad escapes begin like no others, so a
message alone tells which of the two it is.
-/

namespace BlockData

namespace Flaw

/-- Whether a flaw is a bad escape in a string. -/
def isBadEscape : Flaw → Bool
  | .unterminatedEscape => true
  | .unknownEscape _ => true
  | _ => false

/-- The characters that a flaw quotes, if they are those of its lexeme. -/
def quoted? : Flaw → Option (List Char)
  | .invalidNumber lexeme => some lexeme
  | .integerOutOfRange lexeme => some lexeme
  | _ => none

/-- What the report of a flaw says before it quotes anything. -/
def heading : Flaw → String
  | .strayBackslash => "Stray backslash outside of a string"
  | .unexpectedCharacter _ => "Unexpected character: '"
  | .unterminatedString => "Unterminated string"
  | .unterminatedEscape => "Unterminated escape sequence"
  | .unknownEscape _ => "Unknown escape sequence: '\\"
  | .invalidNumber _ => "Invalid number: '"
  | .integerOutOfRange _ => "Integer out of range: '"
  | .floatOutOfRange _ => "Float out of range: '"

/-- A report begins with its heading. -/
theorem exists_message (flaw : Flaw) : ∃ quoted, flaw.message = flaw.heading ++ quoted := by
  cases flaw with
  | strayBackslash => exact ⟨"", String.append_empty.symm⟩
  | unexpectedCharacter c => exact ⟨toString c ++ toString "'", String.append_assoc⟩
  | unterminatedString => exact ⟨"", String.append_empty.symm⟩
  | unterminatedEscape => exact ⟨"", String.append_empty.symm⟩
  | unknownEscape c => exact ⟨toString c ++ toString "'", String.append_assoc⟩
  | invalidNumber lexeme =>
      exact ⟨toString (String.ofList lexeme) ++ toString "'", String.append_assoc⟩
  | integerOutOfRange lexeme =>
      exact ⟨toString (String.ofList lexeme) ++ toString "'", String.append_assoc⟩
  | floatOutOfRange literal =>
      exact ⟨toString (String.ofList literal) ++ toString "'", String.append_assoc⟩

/-- Fourteen characters of a report tell whether it is that of a bad escape. -/
theorem isBadEscape_eq (flaw : Flaw) : flaw.isBadEscape =
    ["Unterminated e".toList, "Unknown escape".toList].contains
      (flaw.message.toList.take 14) := by
  obtain ⟨quoted, isMessage⟩ := flaw.exists_message
  have long : 14 ≤ flaw.heading.toList.length := by cases flaw <;> simp only [heading] <;> decide
  rw [isMessage, String.toList_append, List.take_append_of_le_length long]
  cases flaw <;> simp only [heading, isBadEscape] <;> decide

end Flaw

/-- Whether a message is the report of a bad escape. -/
def IsEscapeReport (message : String) : Prop :=
  ∃ flaw : Flaw, flaw.isBadEscape = true ∧ message = flaw.message

/-- The reports of other flaws are no reports of bad escapes. -/
theorem Flaw.not_isEscapeReport {flaw : Flaw} (other : flaw.isBadEscape = false) :
    ¬ IsEscapeReport flaw.message := by
  rintro ⟨escape, isEscape, same⟩
  rw [isBadEscape_eq, same, ← isBadEscape_eq, isEscape] at other
  cases other

/-- A bad escape stands at an offset of a text, and what is read of it ends at another one:
behind the character that is not escaped so, or at the end of the text. -/
def Flaw.IsEscapeAt (text : List Char) (offset stop : Nat) : Flaw → Prop
  | .unterminatedEscape => text[offset]? = some '\\' ∧ stop = offset + 1 ∧ text.length = stop
  | .unknownEscape c =>
      text[offset]? = some '\\' ∧ text[offset + 1]? = some c ∧ unescape? c = none ∧
        stop = offset + 2
  | _ => False

/-- A bad escape stands further on in a text with more characters in front. -/
theorem Flaw.IsEscapeAt.behind {flaw : Flaw} {text : List Char} {offset stop : Nat}
    (isEscape : flaw.IsEscapeAt text offset stop) (front : List Char) :
    flaw.IsEscapeAt (front ++ text) (front.length + offset) (front.length + stop) := by
  have moved : ∀ index, (front ++ text)[front.length + index]? = text[index]? := fun index => by
    rw [List.getElem?_append_right (by omega), Nat.add_sub_cancel_left]
  cases flaw with
  | unterminatedEscape =>
      obtain ⟨backslash, rfl, atEnd⟩ := isEscape
      exact ⟨by rw [moved, backslash], by omega, by rw [List.length_append, atEnd]⟩
  | unknownEscape c =>
      obtain ⟨backslash, escaped, unknown, rfl⟩ := isEscape
      exact ⟨by rw [moved, backslash], by rw [Nat.add_assoc, moved, escaped], unknown, by omega⟩
  | _ => cases isEscape

/-- A bad escape stands one further on in a text with one more character in front. -/
theorem Flaw.IsEscapeAt.behind_cons {flaw : Flaw} {text : List Char} {offset stop : Nat}
    (isEscape : flaw.IsEscapeAt text offset stop) (c : Char) :
    flaw.IsEscapeAt (c :: text) (offset + 1) (stop + 1) := by
  have moved := isEscape.behind [c]
  rwa [List.length_singleton, Nat.add_comm 1, Nat.add_comm 1] at moved

/-- The bad escape that ends a reading of quoted text stands where the reading says. -/
def QuotedReading.GoesWrongIn (text : List Char) : QuotedReading → Prop
  | .unterminatedEscape place => Flaw.unterminatedEscape.IsEscapeAt text place (place + 1)
  | .unknownEscape place c => (Flaw.unknownEscape c).IsEscapeAt text place (place + 2)
  | _ => True

/-- A reading that starts earlier goes wrong at the same character. -/
theorem QuotedReading.GoesWrongIn.after {reading : QuotedReading} {text : List Char}
    (goesWrong : reading.GoesWrongIn text) (front : List Char) (c : Char) :
    (reading.after front.length c).GoesWrongIn (front ++ text) := by
  cases reading with
  | closed => trivial
  | unterminated => trivial
  | unterminatedEscape place =>
      have isEscape : Flaw.unterminatedEscape.IsEscapeAt text place (place + 1) := goesWrong
      have moved := isEscape.behind front
      rwa [← Nat.add_assoc, Nat.add_comm front.length] at moved
  | unknownEscape place unknown =>
      have isEscape : (Flaw.unknownEscape unknown).IsEscapeAt text place (place + 2) := goesWrong
      have moved := isEscape.behind front
      rwa [← Nat.add_assoc, Nat.add_comm front.length] at moved

/-- Reading quoted text goes wrong where it says. -/
theorem readQuoted_goesWrongIn (quote : Char) (text : List Char) :
    (readQuoted quote text).GoesWrongIn text := by
  fun_induction readQuoted quote text with
  | case1 => trivial
  | case2 => exact ⟨rfl, rfl, rfl⟩
  | case3 c rest meant _ inductionHypothesis => exact inductionHypothesis.after ['\\', c] meant
  | case4 c rest unknown => exact ⟨rfl, rfl, unknown, rfl⟩
  | case5 => trivial
  | case6 c rest _ _ _ inductionHypothesis => exact inductionHypothesis.after [c] c

/-- A number that has no value is out of range. Only the report of an integer quotes the
number as it is written. -/
theorem Numeral.flaw_of_value {numeral : Numeral} {flaw : Flaw}
    (isFlaw : numeral.value = .error flaw) :
    flaw = .integerOutOfRange numeral.text ∨ ∃ literal, flaw = .floatOutOfRange literal := by
  have ofInteger : ∀ {base digits}, numeral.integerValue base digits = .error flaw →
      flaw = .integerOutOfRange numeral.text := by
    intro base digits isFlaw
    unfold integerValue at isFlaw
    split at isFlaw
    · cases isFlaw
    · cases isFlaw
      rfl
  unfold value at isFlaw
  split at isFlaw
  · exact .inl (ofInteger isFlaw)
  · split at isFlaw
    · dsimp only at isFlaw
      split at isFlaw
      · cases isFlaw
      · cases isFlaw
        exact .inr ⟨_, rfl⟩
    · exact .inl (ofInteger isFlaw)

/-- What a word says about the characters that it was read from: a symbol or an operator
is these characters, and a flaw quotes nothing else as its lexeme. -/
structure Word.Quotes (word : Word) (characters : List Char) : Prop where
  named : word.kind = .value .symbol ∨ word.kind = .value .operator →
    word.value = some (.text (String.ofList characters))
  flawed : word.kind = .fail → ∃ flaw : Flaw, word.value = some (.text flaw.message) ∧
    ∀ quoted ∈ flaw.quoted?, quoted = characters

/-- Where a lexeme is reported: at its start, or at the backslash of a bad escape. -/
inductive Lexeme.Reported (text : List Char) (lexeme : Lexeme) : Prop where
  | atStart (isStart : lexeme.reportedAt = 0)
      (noEscape : ∀ message, lexeme.word = ⟨.fail, some (.text message)⟩ →
        ¬ IsEscapeReport message)
  | atBackslash (flaw : Flaw) (isFlaw : lexeme.word = ⟨.fail, some (.text flaw.message)⟩)
      (isEscape : flaw.IsEscapeAt text lexeme.reportedAt lexeme.length)
      (inside : 0 < lexeme.reportedAt)

namespace Lexeme

/-- A lexeme of a kind that no characters are named by says nothing about them. -/
theorem quotes_of_other {lexeme : Lexeme} {characters : List Char}
    (noSymbol : lexeme.kind ≠ .value .symbol) (noOperator : lexeme.kind ≠ .value .operator)
    (noFlaw : lexeme.kind ≠ .fail) : lexeme.word.Quotes characters where
  named := by
    rintro (isSymbol | isOperator)
    · exact absurd isSymbol noSymbol
    · exact absurd isOperator noOperator
  flawed := fun isFlaw => absurd isFlaw noFlaw

/-- The lexeme of a flaw quotes what the flaw quotes. -/
theorem quotes_of_flaw {flaw : Flaw} {length reportedAt : Nat} {characters : List Char}
    (quotes : ∀ quoted ∈ flaw.quoted?, quoted = characters) :
    (malformed flaw length reportedAt).word.Quotes characters where
  named := by rintro (isSymbol | isOperator) <;> contradiction
  flawed := fun _ => ⟨flaw, rfl, quotes⟩

/-- The lexeme of a flaw that quotes nothing says nothing about its characters. -/
theorem quotes_of_unquoted {flaw : Flaw} {length reportedAt : Nat} {characters : List Char}
    (unquoted : flaw.quoted? = none) :
    (malformed flaw length reportedAt).word.Quotes characters :=
  quotes_of_flaw fun quoted isQuoted => by
    rw [unquoted] at isQuoted
    cases isQuoted

/-- A number out of range, or a word that starts like one, is quoted as it is written. -/
theorem readNumber_quotes (text : List Char) :
    (readNumber text).word.Quotes (text.take (readNumber text).length) := by
  unfold readNumber
  dsimp only
  split
  · refine quotes_of_flaw ?_
    rintro quoted ⟨rfl⟩
    exact List.prefix_iff_eq_take.mp (Numeral.read_append_takeWhile_isPrefix text isWordChar)
  · split
    · cases (Numeral.read text).isFloat <;> exact quotes_of_other nofun nofun nofun
    · rename_i flaw isFlaw
      rcases Numeral.flaw_of_value isFlaw with rfl | ⟨literal, rfl⟩
      · refine quotes_of_flaw ?_
        rintro quoted ⟨rfl⟩
        exact List.prefix_iff_eq_take.mp (Numeral.read_isPrefix text)
      · exact quotes_of_unquoted rfl

/-- Every lexeme quotes only its own characters. -/
theorem read_quotes (c : Char) (rest : List Char) :
    (read c rest).word.Quotes ((c :: rest).take (read c rest).length) := by
  unfold read
  split
  case h_1 => exact quotes_of_other nofun nofun nofun
  case h_2 => exact quotes_of_other nofun nofun nofun
  case h_3 =>
    unfold readContinuation
    split
    · exact quotes_of_unquoted rfl
    · exact quotes_of_other nofun nofun nofun
  case h_4 kind lead =>
    have single : singleKind? c = some kind := Lead.of_spec lead
    have sound := isSound_of_singleKind? single
    have noSymbol : kind ≠ .value .symbol := by
      rintro rfl
      cases sound
    have noOperator : kind ≠ .value .operator := by
      rintro rfl
      cases sound
    have noFlaw : kind ≠ .fail := by
      rintro rfl
      obtain ⟨flaw, isFlaw⟩ := sound
      cases isFlaw
    exact quotes_of_other noSymbol noOperator noFlaw
  case h_5 => exact quotes_of_other nofun nofun nofun
  case h_6 =>
    unfold readString
    split
    · exact quotes_of_other nofun nofun nofun
    · exact quotes_of_unquoted rfl
    · exact quotes_of_unquoted rfl
    · exact quotes_of_unquoted rfl
  case h_7 => exact readNumber_quotes (c :: rest)
  case h_8 =>
    refine ⟨fun _ => ?_, nofun⟩
    rfl
  case h_9 =>
    refine ⟨fun _ => ?_, nofun⟩
    have isHead : c :: rest.takeWhile isOperatorChar <+: c :: rest :=
      List.cons_prefix_cons.mpr ⟨rfl, List.takeWhile_prefix isOperatorChar⟩
    change some (Value.text _) = some (Value.text _)
    rw [texted, ← List.prefix_iff_eq_take.mp isHead]
  case h_10 => exact quotes_of_unquoted rfl

/-- A lexeme that is not malformed is reported at its start. -/
theorem reported_of_sound {text : List Char} {lexeme : Lexeme} (isStart : lexeme.reportedAt = 0)
    (noFlaw : lexeme.kind ≠ .fail) : Reported text lexeme :=
  .atStart isStart fun _ isFlaw => absurd (congrArg Word.kind isFlaw) noFlaw

/-- Flaws other than bad escapes are reported at the start of their lexeme. -/
theorem reported_of_flaw {text : List Char} {flaw : Flaw} {length : Nat}
    (other : flaw.isBadEscape = false) : Reported text (malformed flaw length 0) := by
  refine .atStart rfl fun message isFlaw => ?_
  obtain rfl : flaw.message = message := by
    simpa [word, malformed] using isFlaw
  exact Flaw.not_isEscapeReport other

/-- Every lexeme is reported at its start, or at the backslash of a bad escape. -/
theorem read_reported (c : Char) (rest : List Char) : Reported (c :: rest) (read c rest) := by
  unfold read
  split
  case h_1 => exact reported_of_sound rfl nofun
  case h_2 => exact reported_of_sound rfl nofun
  case h_3 =>
    unfold readContinuation
    split
    · exact reported_of_flaw rfl
    · exact reported_of_sound rfl nofun
  case h_4 kind lead =>
    have sound := isSound_of_singleKind? (Lead.of_spec lead)
    refine reported_of_sound rfl ?_
    rintro rfl
    obtain ⟨flaw, ⟨⟩⟩ := sound
  case h_5 => exact reported_of_sound rfl nofun
  case h_6 =>
    have goesWrong := readQuoted_goesWrongIn c rest
    unfold readString
    split
    · exact reported_of_sound rfl nofun
    · exact reported_of_flaw rfl
    · rename_i place reading
      rw [reading] at goesWrong
      -- the opening quote stands in front of what is read
      have isEscape : Flaw.unterminatedEscape.IsEscapeAt rest place (place + 1) := goesWrong
      exact .atBackslash _ rfl (isEscape.behind_cons c) (Nat.succ_pos place)
    · rename_i place unknown reading
      rw [reading] at goesWrong
      have isEscape : (Flaw.unknownEscape unknown).IsEscapeAt rest place (place + 2) := goesWrong
      exact .atBackslash _ rfl (isEscape.behind_cons c) (Nat.succ_pos place)
  case h_7 =>
    unfold readNumber
    dsimp only
    split
    · exact reported_of_flaw rfl
    · split
      · exact reported_of_sound rfl nofun
      · rename_i flaw isFlaw
        rcases Numeral.flaw_of_value isFlaw with rfl | ⟨literal, rfl⟩
        · exact reported_of_flaw rfl
        · exact reported_of_flaw rfl
  case h_8 => exact reported_of_sound rfl nofun
  case h_9 => exact reported_of_sound rfl nofun
  case h_10 => exact reported_of_flaw rfl

/-- A lexeme is reported at one of its characters. -/
theorem read_reportedAt_lt (c : Char) (rest : List Char) :
    (read c rest).reportedAt < (read c rest).length := by
  have positive := read_length_pos c rest
  cases read_reported c rest with
  | atStart isStart => omega
  | atBackslash flaw isFlaw isEscape =>
      cases flaw with
      | unterminatedEscape =>
          obtain ⟨-, stops, -⟩ := isEscape
          omega
      | unknownEscape =>
          obtain ⟨-, -, -, stops⟩ := isEscape
          omega
      | _ => cases isEscape

end Lexeme

end BlockData
