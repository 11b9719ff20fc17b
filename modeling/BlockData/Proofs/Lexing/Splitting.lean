import BlockData.Proofs.Lexing.Seams

/-!
# Splitting texts between tokens

A lexeme looks behind its end at characters that it does not take, and a malformed one may
look for the end of the text. It never depends on them: the characters of a lexeme, read on
their own, are the same lexeme (`Lexeme.read_alone`). So a text may be cut at every boundary
between its tokens, also at one that stands in the middle of a line break, and both parts are
read as before. Only the places of the second part have to be counted from the cut on
(`Cursor.tokens_drop`).
-/

namespace BlockData

namespace Lexeme

variable {c : Char} {others rest : List Char}

/-- A continuation is read from its own characters, be it a joined line or not. -/
theorem readContinuation_alone
    (within : (readContinuation (others ++ rest)).length ≤ others.length + 1) :
    readContinuation others = readContinuation (others ++ rest) := by
  have ends : lineBreakLength (others ++ rest) ≤ others.length := by
    unfold readContinuation at within
    split at within
    · rename_i isNone
      omega
    · rename_i isWidth
      simp only [plain] at within
      omega
  have same : lineBreakLength others = lineBreakLength (others ++ rest) := by
    cases others with
    | nil => exact (Nat.le_zero.mp ends).symm
    | cons d others =>
        have congr : lineBreakLength (d :: others ++ []) = lineBreakLength (d :: others ++ rest) :=
          lineBreakLength_congr (List.cons_ne_nil d others) ends fun _ => startsOutside_nil _ rest
        rwa [List.append_nil] at congr
  rw [readContinuation, readContinuation, same]

/-- A string is read from its own characters. If it is not closed, then these are all there
are. -/
theorem readString_alone (within : (readString c (others ++ rest)).length ≤ others.length + 1) :
    readString c others = readString c (others ++ rest) := by
  cases decided : (readQuoted c (others ++ rest)).isDecided with
  | true =>
      have congr := readString_congr decided within []
      rwa [List.append_nil] at congr
  | false =>
      have goesWrong := readQuoted_goesWrongIn c (others ++ rest)
      have all : rest = [] := by
        unfold readString at within
        cases reading : readQuoted c (others ++ rest) with
        | unterminated =>
            simp only [reading, malformed, List.length_append] at within
            exact List.length_eq_zero_iff.mp (by omega)
        | unterminatedEscape place =>
            rw [reading] at goesWrong
            obtain ⟨-, -, atEnd⟩ := goesWrong
            simp only [reading, malformed] at within
            rw [List.length_append] at atEnd
            exact List.length_eq_zero_iff.mp (by omega)
        | _ =>
            rw [reading] at decided
            cases decided
      rw [all, List.append_nil]

/-- A lexeme that ends within some characters is read from them alone, be it malformed or not. -/
theorem read_alone (within : (read c (others ++ rest)).length ≤ others.length + 1) :
    read c others = read c (others ++ rest) := by
  have sameLead := lead_congr within isSeparated_nil
  rw [List.append_nil] at sameLead
  by_cases sound : (read c (others ++ rest)).kind = .fail
  · cases lead : Lead.of c (others ++ rest).head? with
    | backslash =>
        simp only [read, lead, sameLead] at within ⊢
        exact readContinuation_alone within
    | quote =>
        simp only [read, lead, sameLead] at within ⊢
        exact readString_alone within
    | number =>
        simp only [read, lead, sameLead, ← List.cons_append] at within ⊢
        have congr := readNumber_congr (List.cons_ne_nil c others) within isSeparated_nil
        rwa [List.append_nil] at congr
    | single kind => simp only [read, lead, sameLead]
    | stranger => simp only [read, lead, sameLead]
    | _ =>
        simp only [read, lead] at sound
        cases sound
  · have congr := read_congr sound within isSeparated_nil fun _ => startsOutside_nil _ rest
    rwa [List.append_nil] at congr

end Lexeme

/-- Lexemes are spelled by their own characters, whatever stands behind them. -/
theorem Spelled.alone {front rest : List Char} {lexemes : List Lexeme}
    (spelled : Spelled front lexemes rest) : Spelled front lexemes [] := by
  induction spelled with
  | nil => exact .nil []
  | @cons c others behind rest lexeme lexemes isRead length _ inductionHypothesis =>
      refine .cons ?_ length inductionHypothesis
      have within : (Lexeme.read c ((others ++ behind) ++ rest)).length ≤
          (others ++ behind).length + 1 := by
        rw [List.append_assoc, isRead, length, List.length_append]
        omega
      rw [List.append_nil, Lexeme.read_alone within, List.append_assoc, isRead]

section Places

/-- A span behind an origin, counted from the start of the text that the origin stands in.
Offsets and lines count on from the origin, and so do the columns of its line. -/
def Span.behind (origin : Position) (span : Span) : Span where
  start := origin.offset + span.start
  stop := origin.offset + span.stop
  line := origin.line + (span.line - 1)
  column := if span.line = 1 then origin.column + (span.column - 1) else span.column

/-- A token behind an origin, placed in the text that the origin stands in. -/
def Token.behind (origin : Position) (token : Token) : Token :=
  { token with span := token.span.behind origin }

variable {text : List Char}

/-- The place of a lexeme can be counted from an offset in front of it. -/
theorem Lexeme.behind_tokenAt (lexeme : Lexeme) (text : List Char) (start offset : Nat) :
    (lexeme.tokenAt (text.drop start) offset).behind (.ofOffset text start) =
      lexeme.tokenAt text (start + offset) := by
  simp only [tokenAt, Token.behind, Span.behind, Position.ofOffset, Nat.add_assoc, lineAt_add,
    columnAt_add]

/-- The end of a text is placed like a lexeme without characters. -/
theorem endToken_eq_tokenAt (text : List Char) :
    endToken text = (Lexeme.plain .eof 0).tokenAt text text.length :=
  rfl

/-- The place of a lexeme does not depend on the characters behind it. -/
theorem Lexeme.tokenAt_take {lexeme : Lexeme} {offset stop : Nat}
    (inside : offset + lexeme.reportedAt < stop) :
    lexeme.tokenAt (text.take stop) offset = lexeme.tokenAt text offset := by
  rw [tokenAt, tokenAt, lineAt_take inside, columnAt_take inside]

end Places

/-- The tokens of lexemes that stand one behind the other from an offset on. -/
def tokensAt (text : List Char) (offset : Nat) : List Lexeme → List Token
  | [] => []
  | lexeme :: lexemes =>
      lexeme.tokenAt text offset :: tokensAt text (offset + lexeme.length) lexemes

namespace Spelled

variable {text front rest : List Char} {lexemes : List Lexeme} {offset : Nat}

/-- The tokens from an offset on are those of the lexemes there and those behind them. -/
theorem tokens_eq (spelled : Spelled front lexemes rest)
    (isBehind : text.drop offset = front ++ rest) :
    (Cursor.ofOffset text offset).tokens =
      tokensAt text offset lexemes ++ (Cursor.ofOffset text (offset + front.length)).tokens := by
  induction spelled generalizing offset with
  | nil => rfl
  | @cons c others behind rest lexeme lexemes isRead length _ inductionHypothesis =>
      rw [List.append_assoc, List.cons_append] at isBehind
      have isLater : text.drop (offset + lexeme.length) = behind ++ rest := by
        rw [← List.drop_drop, isBehind, length, ← List.cons_append]
        exact List.drop_left
      rw [Cursor.tokens_ofOffset isBehind, isRead, tokensAt, inductionHypothesis isLater, length,
        List.length_append, List.length_cons, Nat.add_assoc, List.cons_append]

/-- The tokens of lexemes do not depend on the characters behind them. -/
theorem tokensAt_take (spelled : Spelled front lexemes rest) {stop : Nat}
    (inside : offset + front.length ≤ stop) :
    tokensAt (text.take stop) offset lexemes = tokensAt text offset lexemes := by
  induction spelled generalizing offset with
  | nil => rfl
  | @cons c others behind rest lexeme lexemes isRead length _ inductionHypothesis =>
      have reported : lexeme.reportedAt < lexeme.length := by
        rw [← isRead]
        exact Lexeme.read_reportedAt_lt c _
      rw [List.length_append, List.length_cons] at inside
      rw [tokensAt, tokensAt, Lexeme.tokenAt_take (by omega), inductionHypothesis (by omega)]

end Spelled

namespace Cursor

variable {text : List Char} {offset : Nat}

/-- The tokens behind an offset are those of the characters there, placed behind it. -/
theorem tokens_drop {start : Nat} (inside : start ≤ text.length) :
    (ofOffset text start).tokens =
      (ofOffset (text.drop start) 0).tokens.map (Token.behind (.ofOffset text start)) := by
  suffices ∀ {offset}, offset ≤ (text.drop start).length →
      (ofOffset text (start + offset)).tokens =
        (ofOffset (text.drop start) offset).tokens.map (Token.behind (.ofOffset text start)) from
    this (Nat.zero_le _)
  intro offset within
  refine offset_induction ?_ ?_ within
  · have whole : start + (text.drop start).length = text.length := by
      rw [List.length_drop]
      omega
    rw [whole, tokens_end, tokens_end, List.map_singleton, endToken_eq_tokenAt,
      endToken_eq_tokenAt, Lexeme.behind_tokenAt, whole]
  · intro offset c rest isBehind others
    have isBehindStart : text.drop (start + offset) = c :: rest := by
      rw [← List.drop_drop, isBehind]
    rw [tokens_ofOffset isBehindStart, tokens_ofOffset isBehind, List.map_cons,
      Lexeme.behind_tokenAt, ← others, Nat.add_assoc]

/-- Every token is the end of input, or that of a lexeme of the text. -/
theorem eq_end_or_exists_lexeme {token : Token} (inside : offset ≤ text.length)
    (member : token ∈ (ofOffset text offset).tokens) : token = endToken text ∨
      ∃ start c rest, text.drop start = c :: rest ∧
        token = (Lexeme.read c rest).tokenAt text start := by
  revert member
  refine offset_induction ?_ ?_ inside
  · rw [tokens_end]
    intro member
    exact .inl (List.mem_singleton.mp member)
  · intro offset c rest isBehind others member
    rw [tokens_ofOffset isBehind] at member
    rcases List.mem_cons.mp member with rfl | member
    · exact .inr ⟨offset, c, rest, isBehind, rfl⟩
    · exact others member

/-- No token ends behind the end of the text. -/
theorem stop_le_of_mem_tokens {token : Token} (inside : offset ≤ text.length)
    (member : token ∈ (ofOffset text offset).tokens) : token.span.stop ≤ text.length := by
  rcases eq_end_or_exists_lexeme inside member with rfl | ⟨start, c, rest, isBehind, rfl⟩
  · exact Nat.le_refl _
  · have within := Lexeme.read_length_le c rest
    have length := length_of_drop_eq_cons isBehind
    change start + (Lexeme.read c rest).length ≤ text.length
    omega

/-- The characters of a lexeme are read on their own as the lexeme, and then they end. -/
theorem tokens_take_lexeme {start : Nat} {c : Char} {rest : List Char}
    (isBehind : text.drop start = c :: rest) :
    let lexeme := Lexeme.read c rest
    let characters := (text.drop start).take lexeme.length
    (ofOffset characters 0).tokens = [lexeme.tokenAt characters 0, endToken characters] ∧
      (lexeme.tokenAt characters 0).behind (.ofOffset text start) = lexeme.tokenAt text start := by
  intro lexeme characters
  have within : lexeme.length ≤ rest.length + 1 := Lexeme.read_length_le c rest
  have reported : lexeme.reportedAt < lexeme.length := Lexeme.read_reportedAt_lt c rest
  obtain ⟨width, isLength⟩ : ∃ width, lexeme.length = width + 1 := ⟨lexeme.length - 1, by omega⟩
  have isFront : characters = c :: rest.take width := by
    simp only [characters, isBehind, isLength, List.take_succ_cons]
  have length : characters.length = lexeme.length := by
    rw [isFront, List.length_cons, List.length_take_of_le (by omega), isLength]
  have alone : Lexeme.read c (rest.take width) = lexeme := by
    have ends : (Lexeme.read c (rest.take width ++ rest.drop width)).length ≤
        (rest.take width).length + 1 := by
      rw [List.take_append_drop, List.length_take_of_le (by omega)]
      exact isLength.le
    rw [Lexeme.read_alone ends, List.take_append_drop]
  constructor
  · rw [tokens_ofOffset (show characters.drop 0 = _ from isFront), alone, Nat.zero_add, ← length,
      tokens_end]
  · rw [Lexeme.tokenAt_take (by omega), Lexeme.behind_tokenAt, Nat.add_zero]

/-- The tokens of a text are those of its characters in front of a boundary between tokens,
followed by those of the characters behind it. -/
theorem exists_tokens_split {boundary : Nat}
    (isBoundary : boundary = 0 ∨ ∃ token ∈ (ofOffset text 0).tokens, token.span.stop = boundary) :
    ∃ before, (ofOffset (text.take boundary) 0).tokens = before ++ [endToken (text.take boundary)] ∧
      (ofOffset text 0).tokens = before ++
        (ofOffset (text.drop boundary) 0).tokens.map (Token.behind (.ofOffset text boundary)) := by
  obtain ⟨lexemes, -, spelled, -⟩ := exists_spelled_boundary isBoundary
  have inside : boundary ≤ text.length := by
    rcases isBoundary with rfl | ⟨token, member, rfl⟩
    · exact Nat.zero_le _
    · exact stop_le_of_mem_tokens (Nat.zero_le _) member
  have length : (text.take boundary).length = boundary := List.length_take_of_le inside
  have whole : text.drop 0 = text.take boundary ++ text.drop boundary := by
    rw [List.drop_zero, List.take_append_drop]
  have front : (text.take boundary).drop 0 = text.take boundary ++ [] := by
    rw [List.drop_zero, List.append_nil]
  refine ⟨tokensAt text 0 lexemes, ?_, ?_⟩
  · rw [spelled.alone.tokens_eq front, Nat.zero_add, tokens_end,
      spelled.tokensAt_take (by rw [length, Nat.zero_add])]
  · rw [spelled.tokens_eq whole, length, Nat.zero_add, tokens_drop inside]

end Cursor

/-- Reading splits at every boundary between tokens, be they malformed or not. The tokens of a
text are those of its characters in front of the boundary, without the end of input, and then
those of the characters behind it, placed behind the boundary. And the characters of every token
are a text of that token alone: read on their own, they give it and then the end of input. -/
theorem tokens_split_at_boundaries (source : String) :
    let text := source.toList
    let stream := (Cursor.ofString source).tokens
    (∀ boundary, (boundary = 0 ∨ ∃ token ∈ stream, token.span.stop = boundary) →
      let front := text.take boundary
      let rest := text.drop boundary
      ∃ before, (Cursor.ofString (String.ofList front)).tokens = before ++ [endToken front] ∧
        stream = before ++ (Cursor.ofString (String.ofList rest)).tokens.map
          (Token.behind (.ofOffset text boundary))) ∧
    ∀ token ∈ stream, token.kind ≠ .eof →
      let lexeme := text.extract token.span.start token.span.stop
      ∃ alone, (Cursor.ofString (String.ofList lexeme)).tokens = [alone, endToken lexeme] ∧
        alone.behind (.ofOffset text token.span.start) = token := by
  intro text stream
  constructor
  · intro boundary isBoundary front rest
    obtain ⟨before, isFront, isStream⟩ := Cursor.exists_tokens_split isBoundary
    refine ⟨before, ?_, ?_⟩
    · rwa [Cursor.ofString_eq, String.toList_ofList]
    · rwa [Cursor.ofString_eq, String.toList_ofList]
  · intro token member notEnd lexeme
    rcases Cursor.eq_end_or_exists_lexeme (Nat.zero_le text.length) member with
      rfl | ⟨start, c, others, isBehind, rfl⟩
    · exact absurd rfl notEnd
    · obtain ⟨isAlone, isPlaced⟩ := Cursor.tokens_take_lexeme isBehind
      have isLexeme : lexeme = (text.drop start).take (Lexeme.read c others).length := by
        change (text.drop start).take (start + _ - start) = _
        rw [Nat.add_sub_cancel_left]
      refine ⟨_, ?_, isPlaced⟩
      rw [Cursor.ofString_eq, String.toList_ofList, isLexeme, isAlone]

/-- A bad escape takes the carriage return of a line break, so the boundary behind it stands in
the middle of the break, and the second part starts with a line feed. -/
theorem tokens_split_within_line_break :
    let text := "\"\\\r\n".toList
    let stream := (Cursor.ofString "\"\\\r\n").tokens
    let token : Token := ⟨.fail, some (.text (Flaw.unknownEscape '\r').message), 0, 3, 1, 2⟩
    token ∈ stream ∧ token.kind ≠ .eof ∧
      (∃ before, (Cursor.ofString (String.ofList (text.take 3))).tokens =
          before ++ [endToken (text.take 3)] ∧
        stream = before ++ (Cursor.ofString (String.ofList (text.drop 3))).tokens.map
          (Token.behind (.ofOffset text 3))) ∧
      ∃ alone, (Cursor.ofString (String.ofList (text.extract 0 3))).tokens =
          [alone, endToken (text.extract 0 3)] ∧
        alone.behind (.ofOffset text 0) = token := by
  intro text stream token
  have string : text.drop 0 = '"' :: ['\\', '\r', '\n'] := rfl
  have isFirst : stream = token :: _ := Cursor.tokens_ofOffset string
  have member : token ∈ stream := by
    rw [isFirst]
    exact List.mem_cons_self
  obtain ⟨splits, areAlone⟩ := tokens_split_at_boundaries "\"\\\r\n"
  exact ⟨member, nofun, splits 3 (.inr ⟨token, member, rfl⟩), areAlone token member nofun⟩

end BlockData
