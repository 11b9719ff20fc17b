import BlockData.Proofs.Lexing.Stream

/-!
# Reported places

Every token reports the line and the column that counting over the whole text gives: those
of its start or, for a bad escape, those of the offending backslash inside of it. This
holds of malformed tokens and of whatever is read behind them, and so of the error that the
first malformed token of a text stands for.
-/

namespace BlockData

/-- The line and the column of a span are those of its start, unless a message reports a
bad escape; then they are those of the backslash, which stands inside of the span. -/
structure IsReported (text : List Char) (message? : Option String) (span : Span) : Prop where
  atStart : (∀ message ∈ message?, ¬ IsEscapeReport message) →
    span.line = lineAt text span.start ∧ span.column = columnAt text span.start
  atBackslash : ∀ message ∈ message?, IsEscapeReport message →
    ∃ (flaw : Flaw) (offset : Nat), message = flaw.message ∧
      flaw.IsEscapeAt text offset span.stop ∧ span.start < offset ∧ offset < span.stop ∧
      span.line = lineAt text offset ∧ span.column = columnAt text offset

/-- The reason that a malformed token gives is its value. -/
theorem Token.failMessage?_eq_some {token : Token} {message : String} :
    token.failMessage? = some message ↔ token.word = ⟨.fail, some (.text message)⟩ := by
  obtain ⟨kind, value, span⟩ := token
  rw [failMessage?, isFail, word, Word.mk.injEq]
  constructor
  · intro isMessage
    simp only [beq_iff_eq, Option.ite_none_right_eq_some, Option.bind_eq_some_iff] at isMessage
    obtain ⟨isFail, content, rfl, isText⟩ := isMessage
    cases content with
    | text content => exact ⟨isFail, by rw [Option.some.inj isText]⟩
    | _ => cases isText
  · rintro ⟨rfl, rfl⟩
    rfl

/-- A lexeme is reported where it should be. -/
theorem Lexeme.tokenAt_isReported {text : List Char} {offset : Nat} {c : Char} {rest : List Char}
    (behind : text.drop offset = c :: rest) :
    IsReported text ((read c rest).tokenAt text offset).failMessage?
      ((read c rest).tokenAt text offset).span := by
  have inside := read_reportedAt_lt c rest
  cases read_reported c rest with
  | atStart isStart noEscape =>
      constructor
      · intro _
        simp only [tokenAt, isStart, Nat.add_zero, and_self]
      · intro message isMessage isReport
        exact absurd isReport (noEscape message (Token.failMessage?_eq_some.mp isMessage))
  | atBackslash flaw isFlaw isEscape behindStart =>
      have isMessage : ((read c rest).tokenAt text offset).failMessage? = some flaw.message :=
        Token.failMessage?_eq_some.mpr isFlaw
      have isReport : IsEscapeReport flaw.message := by
        refine ⟨flaw, ?_, rfl⟩
        cases flaw <;> first | rfl | cases isEscape
      -- the escape stands in the whole text as far behind as the lexeme does
      have length : (text.take offset).length = offset :=
        List.length_take_of_le (length_of_drop_eq_cons behind ▸ Nat.le_add_right ..)
      rw [← behind] at isEscape
      have escapes := isEscape.behind (text.take offset)
      rw [List.take_append_drop, length] at escapes
      constructor
      · intro noReport
        exact absurd isReport (noReport _ isMessage)
      · intro message isOther _
        obtain rfl : flaw.message = message := Option.some.inj (isMessage.symm.trans isOther)
        exact ⟨flaw, offset + (read c rest).reportedAt, rfl, escapes,
          Nat.lt_add_of_pos_right behindStart, Nat.add_lt_add_left inside offset, rfl, rfl⟩

/-- The end of a text is reported where it is. -/
theorem endToken_isReported (text : List Char) :
    IsReported text (endToken text).failMessage? (endToken text).span where
  atStart := fun _ => ⟨rfl, rfl⟩
  atBackslash := nofun

/-- All tokens from an offset on are reported where they should be, and the malformed ones
among them give a reason. -/
theorem Cursor.tokens_areReported {text : List Char} {offset : Nat}
    (inside : offset ≤ text.length) : ∀ token ∈ (ofOffset text offset).tokens,
      IsReported text token.failMessage? token.span ∧
        (token.isFail = true → token.failMessage?.isSome = true) := by
  refine offset_induction ?_ ?_ inside
  · rw [tokens_end]
    intro token member
    obtain rfl := List.mem_singleton.mp member
    exact ⟨endToken_isReported text, nofun⟩
  · intro offset c rest behind others
    rw [tokens_ofOffset behind]
    intro token member
    rcases List.mem_cons.mp member with rfl | member
    · refine ⟨Lexeme.tokenAt_isReported behind, fun isFail => ?_⟩
      obtain ⟨flaw, isFlaw, -⟩ := (Lexeme.read_quotes c rest).flawed (beq_iff_eq.mp isFail)
      rw [Token.failMessage?, if_pos isFail]
      change ((Lexeme.read c rest).word.value.bind Value.text?).isSome = true
      rw [isFlaw]
      rfl
    · exact others token member

/-- Every token of a text, the end of input and malformed ones included, reports the line
and the column of its start; only bad escapes report those of their backslash. The error of
a malformed text is reported in the same way, as its first malformed token. -/
theorem reports_are_placed (source : String) :
    let text := source.toList
    let stream := (Cursor.ofString source).tokens
    (∀ token ∈ stream, IsReported text token.failMessage? token.span) ∧
      ∀ error, tokenize source = .error error →
        ∃ token, stream.find? Token.isFail = some token ∧
          IsReported text (some error.message)
            { token.span with line := error.line, column := error.column } := by
  intro text stream
  have reported : ∀ token ∈ stream, _ := Cursor.tokens_areReported (Nat.zero_le text.length)
  refine ⟨fun token member => (reported token member).1, fun error isError => ?_⟩
  unfold tokenize at isError
  dsimp only at isError
  split at isError
  · rename_i token isFirst
    cases isError
    obtain ⟨placed, hasReason⟩ := reported token (List.mem_of_find?_eq_some isFirst)
    obtain ⟨message, isMessage⟩ :=
      Option.isSome_iff_exists.mp (hasReason (List.find?_some isFirst))
    rw [isMessage] at placed
    refine ⟨token, isFirst, ?_⟩
    simp only [LexicalError.ofToken, isMessage, Option.getD_some]
    exact placed
  · cases isError

/-- A bad escape behind a line break is reported at its backslash. -/
theorem reports_are_placed_in_string :
    let error : LexicalError := ⟨(Flaw.unknownEscape 'q').message, 2, 2⟩
    tokenize "\r\n\"\\q" = .error error ∧
      ∃ token, (Cursor.ofString "\r\n\"\\q").tokens.find? Token.isFail = some token ∧
        IsReported "\r\n\"\\q".toList (some error.message)
          { token.span with line := error.line, column := error.column } := by
  intro error
  have lineBreak : "\r\n\"\\q".toList.drop 0 = '\r' :: ['\n', '"', '\\', 'q'] := rfl
  have string : "\r\n\"\\q".toList.drop 2 = '"' :: ['\\', 'q'] := rfl
  have stream : (Cursor.ofString "\r\n\"\\q").tokens = _ :: _ :: _ :=
    (Cursor.tokens_ofOffset lineBreak).trans (congrArg _ (Cursor.tokens_ofOffset string))
  have isError : tokenize "\r\n\"\\q" = .error error := by
    rw [tokenize, stream]
    rfl
  exact ⟨isError, (reports_are_placed "\r\n\"\\q").2 error isError⟩

end BlockData
