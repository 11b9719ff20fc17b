import BlockData.Proofs.Lexing.Settled

/-!
# Separators as tokens

White space, joined lines, terminators, closing brackets and comments start with a separator,
and the first character of a lexeme is one that its kind may start with
(`Lexeme.startsWith_read`). So the characters of these lexemes are known from their kinds, and
what they add to the words of a text from their characters.
-/

namespace BlockData

/-- Blanks are spaces and tabs. -/
theorem isBlank_iff {c : Char} : isBlank c = true ↔ c = ' ' ∨ c = '\t' := by
  simp [isBlank]

/-- Lines end with line feeds and carriage returns. -/
theorem isLineEnd_iff {c : Char} : isLineEnd c = true ↔ c = '\n' ∨ c = '\r' := by
  simp [isLineEnd]

/-- Whether a token of some kind may start with a character, as far as kinds tell. -/
def Kind.startsWith : Kind → Char → Bool
  | .trivia .whitespace, c => isBlank c
  | .trivia .escapedNewline, c => c == '\\'
  | .terminator .newline, c => isLineEnd c
  | .terminator .semicolon, c => c == ';'
  | .closing delimiter, c => c == delimiter.closeChar
  | .comment, c => c == '#'
  | _, _ => true

/-- Whether tokens of a kind start with a separator. -/
def Kind.isSeparator : Kind → Bool
  | .trivia _ => true
  | .terminator _ => true
  | .closing _ => true
  | .comment => true
  | _ => false

/-- What the grammar never sees starts with a separator. -/
theorem Kind.isSeparator_of_ignored {kind : Kind} (ignored : kind ∈ ignoredKinds) :
    kind.isSeparator = true := by
  simp only [ignoredKinds, List.mem_cons, List.not_mem_nil, or_false] at ignored
  rcases ignored with rfl | rfl <;> rfl

/-- A single character starts the token that it is. -/
theorem startsWith_of_singleKind? {c : Char} {kind : Kind} (single : singleKind? c = some kind) :
    kind.startsWith c = true := by
  unfold singleKind? at single
  split at single
  · cases single
    rfl
  · cases single
    rfl
  · cases single
    rfl
  · cases single
    rfl
  · rw [Option.or_eq_some_iff, Option.map_eq_some_iff, Option.map_eq_some_iff] at single
    rcases single with ⟨delimiter, -, rfl⟩ | ⟨-, delimiter, closes, rfl⟩
    · rfl
    · rw [Kind.startsWith, Delimiter.closeChar_of_ofCloseChar? closes, beq_self_eq_true]

/-- What leads a text says about its first character. -/
theorem Lead.char_of {c : Char} {next : Option Char} {lead : Lead}
    (isLead : Lead.of c next = lead) :
    match lead with
    | .blank => isBlank c = true
    | .lineBreak => isLineEnd c = true
    | .backslash => c = '\\'
    | .hash => c = '#'
    | .quote => c = '"' ∨ c = '\''
    | _ => True := by
  unfold Lead.of at isLead
  repeat' split at isLead
  all_goals
    cases isLead
    first | trivial | simpa only [isBlank_iff, isLineEnd_iff]

/-- A lexeme starts with a character that its kind may start with. -/
theorem Lexeme.startsWith_read (c : Char) (rest : List Char) :
    (read c rest).kind.startsWith c = true := by
  unfold read
  split
  case h_1 lead => exact Lead.char_of lead
  case h_2 lead => exact Lead.char_of lead
  case h_3 lead =>
    have isBackslash : c = '\\' := Lead.char_of lead
    unfold readContinuation
    split <;> simp [malformed, plain, Kind.startsWith, isBackslash]
  case h_4 kind lead => exact startsWith_of_singleKind? (Lead.of_spec lead)
  case h_5 lead =>
    have isHash : c = '#' := Lead.char_of lead
    simp [readComment, texted, Kind.startsWith, isHash]
  case h_6 =>
    unfold readString
    split <;> rfl
  case h_7 =>
    unfold readNumber
    dsimp only
    split
    · rfl
    · split <;> rfl
  case h_8 => rfl
  case h_9 => rfl
  case h_10 => rfl

/-- Tokens of kinds that start with a separator do so. -/
theorem Kind.mem_separatorChars {kind : Kind} {c : Char} (isSeparator : kind.isSeparator = true)
    (starts : kind.startsWith c = true) : c ∈ separatorChars := by
  match kind with
  | .trivia .whitespace => rcases isBlank_iff.mp starts with rfl | rfl <;> decide
  | .trivia .escapedNewline => obtain rfl := beq_iff_eq.mp starts; decide
  | .terminator .newline => rcases isLineEnd_iff.mp starts with rfl | rfl <;> decide
  | .terminator .semicolon => obtain rfl := beq_iff_eq.mp starts; decide
  | .closing delimiter =>
      obtain rfl := beq_iff_eq.mp starts
      cases delimiter <;> decide
  | .comment => obtain rfl := beq_iff_eq.mp starts; decide

/-- If as many characters are taken as stand in front, they are taken, and none behind them. -/
theorem all_of_takeWhile_append {p : Char → Bool} {front rest : List Char}
    (length : ((front ++ rest).takeWhile p).length = front.length) :
    (∀ c ∈ front, p c = true) ∧ ∀ c ∈ rest.head?, p c = false := by
  have taken : (front ++ rest).takeWhile p = front :=
    (List.prefix_of_prefix_length_le (List.takeWhile_prefix p) (List.prefix_append front rest)
      length.le).eq_of_length length
  have inside : ∀ c ∈ front, p c = true := fun c member => by
    rw [← taken] at member
    exact List.mem_takeWhile_imp member
  refine ⟨inside, fun c isHead => ?_⟩
  rw [List.takeWhile_append_of_pos inside] at taken
  cases rest with
  | nil => cases isHead
  | cons d rest =>
      cases isHead
      by_contra more
      simp [more] at taken

namespace Lexeme

/-- White space is nothing but blanks. -/
theorem isBlank_of_read (c : Char) (others rest : List Char)
    (isWhitespace : (read c (others ++ rest)).kind = .trivia .whitespace)
    (length : (read c (others ++ rest)).length = others.length + 1) :
    ∀ d ∈ c :: others, isBlank d = true := by
  have starts := startsWith_read c (others ++ rest)
  rw [isWhitespace] at starts
  rw [read_blank starts] at length
  exact List.forall_mem_cons.mpr
    ⟨starts, (all_of_takeWhile_append (Nat.succ.inj length)).1⟩

/-- A comment is the rest of its line behind a hash. -/
theorem line_of_read (c : Char) (others rest : List Char)
    (isComment : (read c (others ++ rest)).kind = .comment)
    (length : (read c (others ++ rest)).length = others.length + 1) :
    c = '#' ∧ (∀ d ∈ others, isLineEnd d = false) ∧ ∀ d ∈ rest.head?, isLineEnd d = true := by
  have starts := startsWith_read c (others ++ rest)
  rw [isComment] at starts
  obtain rfl := beq_iff_eq.mp starts
  have isLine : read '#' (others ++ rest) = readComment (others ++ rest) := rfl
  rw [isLine] at length
  have line := all_of_takeWhile_append (Nat.succ.inj length)
  exact ⟨rfl, by simpa using line.1, by simpa using line.2⟩

end Lexeme

/-- Blanks in front of a text add nothing. -/
theorem words_blanks {blanks : List Char} (areBlank : ∀ c ∈ blanks, isBlank c = true)
    (rest : List Char) : words (blanks ++ rest) = words rest := by
  induction blanks with
  | nil => rfl
  | cons c blanks inductionHypothesis =>
      rw [List.cons_append, words_blank (areBlank c List.mem_cons_self),
        inductionHypothesis fun c member => areBlank c (List.mem_cons_of_mem _ member)]

/-- A line break is read as the end of a line. -/
theorem Lexeme.read_lineBreak {c : Char} (breaks : isLineEnd c = true) (rest : List Char) :
    read c rest = plain (.terminator .newline) (lineBreakLength (c :: rest)) := by
  rcases isLineEnd_iff.mp breaks with rfl | rfl <;> rfl

/-- A line break in front of a text ends a line. -/
theorem words_lineBreak {text : List Char} (breaks : lineBreakLength text ≠ 0) :
    words text = .lineEnd :: words (text.drop (lineBreakLength text)) := by
  cases text with
  | nil => exact absurd rfl breaks
  | cons c rest =>
      have lineEnd : isLineEnd c = true := by
        by_contra inLine
        simp only [isLineEnd, Bool.or_eq_true, beq_iff_eq, not_or] at inLine
        simp [lineBreakLength_cons, inLine] at breaks
      have isRead := Lexeme.read_lineBreak lineEnd rest
      have kept : (Lexeme.read c rest).kind ∉ ignoredKinds := by
        rw [isRead]
        simp [Lexeme.plain, ignoredKinds]
      rw [words_of_kept kept, isRead]
      rfl

/-- A line that is joined with the next one adds nothing. -/
theorem words_continuation {text : List Char} (breaks : lineBreakLength text ≠ 0) :
    words ('\\' :: text) = words (text.drop (lineBreakLength text)) := by
  obtain ⟨width, isWidth⟩ := Nat.exists_eq_add_one_of_ne_zero breaks
  have isRead : Lexeme.read '\\' text = .plain (.trivia .escapedNewline) (width + 2) := by
    rw [show Lexeme.read '\\' text = Lexeme.readContinuation text from rfl,
      Lexeme.readContinuation, isWidth]
  have ignored : (Lexeme.read '\\' text).kind ∈ ignoredKinds := by
    rw [isRead]
    simp [Lexeme.plain, ignoredKinds]
  rw [words_of_ignored ignored, isRead, isWidth]
  rfl

end BlockData
