import BlockData.Proofs.Lexing.Places
import BlockData.Proofs.Lexing.Seams
import BlockData.Proofs.Lexing.Strings
import Mathlib

/-!
# Line endings

The same text with other line endings: every line feed is replaced by a carriage return, or by
the pair of both. Lines and columns are counted alike (`lineAt_replace`, `columnAt_replace`).
No lexeme looks further than up to the end of its line (`Lexeme.read_line`), unless it holds line
breaks itself: the end of a line, a joined line, or a string. So the lexemes of both texts
correspond one by one (`Lexeme.exists_replaced`), and so do their tokens
(`Cursor.tokens_replace`). Only strings hold their line breaks as they are written.
-/

namespace BlockData

/-- What lines end with instead of a line feed. -/
inductive LineEnding where
  | carriageReturn
  | both
deriving DecidableEq

namespace LineEnding

/-- What stands behind the carriage return of a line ending. -/
def lineFeed : LineEnding → List Char
  | carriageReturn => []
  | both => ['\n']

/-- The characters of a line ending. -/
def characters (ending : LineEnding) : List Char :=
  '\r' :: ending.lineFeed

/-- Some characters with a line ending in place of each line feed. -/
def replace (ending : LineEnding) (text : List Char) : List Char :=
  text.flatMap fun c => if c = '\n' then ending.characters else [c]

/-- A text with a line ending in place of each line feed. -/
def rewrite (ending : LineEnding) (source : String) : String :=
  String.ofList (ending.replace source.toList)

variable (ending : LineEnding)

@[simp] theorem replace_nil : ending.replace [] = [] := rfl

@[simp] theorem replace_append (first second : List Char) :
    ending.replace (first ++ second) = ending.replace first ++ ending.replace second :=
  List.flatMap_append

@[simp] theorem replace_lineFeed (rest : List Char) :
    ending.replace ('\n' :: rest) = ending.characters ++ ending.replace rest := rfl

@[simp] theorem replace_cons_of_ne {c : Char} (inLine : c ≠ '\n') (rest : List Char) :
    ending.replace (c :: rest) = c :: ending.replace rest := by
  rw [replace, List.flatMap_cons, if_neg inLine, replace, List.singleton_append]

/-- Characters of a line stay what they are. -/
theorem replace_of_not_mem {text : List Char} (inLine : '\n' ∉ text) :
    ending.replace text = text := by
  induction text with
  | nil => rfl
  | cons c rest inductionHypothesis =>
      rw [List.mem_cons, not_or] at inLine
      rw [replace_cons_of_ne _ (Ne.symm inLine.1), inductionHypothesis inLine.2]

/-- Behind a carriage return alone no line feed stands. -/
theorem head?_replace_carriageReturn (rest : List Char) :
    (carriageReturn.replace rest).head? ≠ some '\n' := by
  cases rest with
  | nil => nofun
  | cons c rest =>
      by_cases breaks : c = '\n'
      · rw [breaks, replace_lineFeed]
        simp [characters]
      · rw [replace_cons_of_ne _ breaks, List.head?_cons]
        exact fun isHead => breaks (Option.some.inj isHead)

/-- The characters of a line ending are one line break. -/
theorem lineBreakLength_characters (rest : List Char) :
    lineBreakLength (ending.characters ++ ending.replace rest) = ending.characters.length := by
  cases ending with
  | both => rfl
  | carriageReturn =>
      have alone := head?_replace_carriageReturn rest
      simp [characters, lineFeed, lineBreakLength_cons, alone]

end LineEnding

/-- A position is on the same line and in the same column as another one. -/
def Position.AlignsWith (position other : Position) : Prop :=
  position.line = other.line ∧ position.column = other.column

namespace LineEnding

variable (ending : LineEnding)

/-- A line ending leads to the start of the next line, like a line feed. -/
theorem advance_characters (position : Position) (rest : List Char) (count : Nat) :
    ∃ offset, position.advance (ending.characters.length + count)
        (ending.characters ++ ending.replace rest) =
      Position.advance ⟨offset, position.line + 1, 1⟩ count (ending.replace rest) := by
  cases ending with
  | both =>
      refine ⟨position.offset + 1 + 1, ?_⟩
      rw [Nat.add_comm]
      rfl
  | carriageReturn =>
      have alone : breaksLine '\r' (carriageReturn.replace rest).head? = true := by
        simp [breaksLine, head?_replace_carriageReturn]
      refine ⟨position.offset + 1, ?_⟩
      rw [Nat.add_comm]
      change (position.past '\r' (carriageReturn.replace rest).head?).advance _ _ = _
      rw [Position.past, alone, if_pos rfl]
      rfl

/-- Positions that are aligned stay aligned while the same characters are passed. -/
theorem alignsWith_advance {text : List Char} (noReturn : '\r' ∉ text) (count : Nat)
    {position other : Position} (aligned : other.AlignsWith position) :
    (other.advance (ending.replace (text.take count)).length (ending.replace text)).AlignsWith
      (position.advance count text) := by
  induction text generalizing count position other with
  | nil => cases count <;> exact aligned
  | cons c rest inductionHypothesis =>
      rw [List.mem_cons, not_or] at noReturn
      cases count with
      | zero => exact aligned
      | succ count =>
          rw [List.take_succ_cons, Position.advance]
          by_cases breaks : c = '\n'
          · subst breaks
            obtain ⟨offset, isNext⟩ :=
              ending.advance_characters other rest (ending.replace (rest.take count)).length
            rw [replace_lineFeed, replace_lineFeed, List.length_append, isNext]
            refine inductionHypothesis noReturn.2 count ⟨?_, rfl⟩
            exact congrArg (· + 1) aligned.1
          · have inLine : ∀ next, breaksLine c next = false := fun next => by
              simp [breaksLine, breaks, Ne.symm noReturn.1]
            rw [replace_cons_of_ne _ breaks, replace_cons_of_ne _ breaks, List.length_cons,
              Position.advance]
            refine inductionHypothesis noReturn.2 count ?_
            rw [Position.past, Position.past, inLine, inLine]
            exact ⟨aligned.1, congrArg (· + 1) aligned.2⟩

/-- Behind the characters in front of an offset, with other line endings, stand those behind it. -/
theorem drop_replace (text : List Char) (offset : Nat) :
    (ending.replace text).drop (ending.replace (text.take offset)).length =
      ending.replace (text.drop offset) := by
  have split : ending.replace text =
      ending.replace (text.take offset) ++ ending.replace (text.drop offset) := by
    rw [← replace_append, List.take_append_drop]
  rw [split, List.drop_left]

/-- The characters in front of an offset, with other line endings, end on the same line and in
the same column. -/
theorem alignsWith_ofOffset {text : List Char} (noReturn : '\r' ∉ text) {offset : Nat}
    (inside : offset ≤ text.length) :
    (Position.ofOffset (ending.replace text)
      (ending.replace (text.take offset)).length).AlignsWith (.ofOffset text offset) := by
  have reached : (ending.replace (text.take offset)).length ≤ (ending.replace text).length := by
    conv => rhs; rw [← List.take_append_drop offset text, replace_append, List.length_append]
    exact Nat.le_add_right ..
  have walked : ∀ (text : List Char) {offset : Nat}, offset ≤ text.length →
      (Position.ofOffset text 0).advance offset text = .ofOffset text offset := by
    intro text offset inside
    have advanced := Position.advance_ofOffset (Nat.zero_add offset ▸ inside)
    rwa [Nat.zero_add, List.drop_zero] at advanced
  rw [← walked text inside, ← walked _ reached]
  exact ending.alignsWith_advance noReturn offset ⟨rfl, rfl⟩

/-- An item of a string, or a line ending in place of a line feed that stands for itself. -/
def replaceItem : StringItem → List StringItem
  | .raw c => (ending.replace [c]).map .raw
  | .escaped c meant => [.escaped c meant]

/-- Items of a string, with a line ending in place of each line feed that stands for itself. -/
def replaceIn (items : List StringItem) : List StringItem :=
  items.flatMap ending.replaceItem

@[simp] theorem replaceIn_cons (item : StringItem) (items : List StringItem) :
    ending.replaceIn (item :: items) = ending.replaceItem item ++ ending.replaceIn items := rfl

/-- Characters that stand for themselves. -/
theorem spelling_map_raw (characters : List Char) :
    StringItem.spelling (characters.map .raw) = characters := by
  induction characters with
  | nil => rfl
  | cons c characters inductionHypothesis =>
      rw [List.map_cons, StringItem.spelling_cons, inductionHypothesis]
      rfl

/-- No line break is escaped behind a backslash. -/
theorem ne_lineFeed_of_escapes {c meant : Char} (isEscape : (c, meant) ∈ escapes) : c ≠ '\n' := by
  rintro rfl
  have noEscape : ∀ meant, ('\n', meant) ∉ escapes := by simp [escapes]
  exact noEscape meant isEscape

/-- Other line endings in what is written are other line endings that stand for themselves. -/
theorem replace_spelling {quote : Char} {items : List StringItem}
    (inside : ∀ item ∈ items, item.IsIn quote) :
    ending.replace (StringItem.spelling items) =
      StringItem.spelling (ending.replaceIn items) := by
  induction items with
  | nil => rfl
  | cons item items inductionHypothesis =>
      obtain ⟨first, others⟩ := List.forall_mem_cons.mp inside
      have replaced : ending.replace item.text =
          StringItem.spelling (ending.replaceItem item) := by
        cases item with
        | raw c => exact (spelling_map_raw _).symm
        | escaped c meant =>
            refine ending.replace_of_not_mem ?_
            simp [StringItem.text, Ne.symm (ne_lineFeed_of_escapes first)]
      rw [StringItem.spelling_cons, replace_append, inductionHypothesis others, replaced,
        replaceIn_cons, StringItem.spelling, StringItem.spelling, StringItem.spelling,
        List.flatMap_append]

/-- Other line endings may stand in strings as well. -/
theorem isIn_replaceIn {quote : Char} (isQuote : quote ∈ quoteChars) {items : List StringItem}
    (inside : ∀ item ∈ items, item.IsIn quote) :
    ∀ item ∈ ending.replaceIn items, item.IsIn quote := by
  intro other member
  obtain ⟨item, isItem, written⟩ := List.mem_flatMap.mp member
  have isIn := inside item isItem
  cases item with
  | escaped c meant =>
      obtain rfl := List.mem_singleton.mp written
      exact isIn
  | raw c =>
      obtain ⟨d, isChar, rfl⟩ := List.mem_map.mp written
      by_cases breaks : c = '\n'
      · rw [breaks, replace_lineFeed, replace_nil, List.append_nil] at isChar
        have fits : ∀ d ∈ ending.characters, ∀ quote ∈ quoteChars, d ≠ quote ∧ d ≠ '\\' := by
          cases ending <;> simp [characters, lineFeed, quoteChars]
        exact fits d isChar quote isQuote
      · rw [replace_cons_of_ne _ breaks] at isChar
        obtain rfl := List.mem_singleton.mp isChar
        exact isIn

/-- Without a line break in what is written nothing is replaced. -/
theorem replaceIn_of_not_mem {items : List StringItem}
    (inLine : '\n' ∉ StringItem.spelling items) : ending.replaceIn items = items := by
  induction items with
  | nil => rfl
  | cons item items inductionHypothesis =>
      rw [StringItem.spelling_cons, List.mem_append, not_or] at inLine
      rw [replaceIn_cons, inductionHypothesis inLine.2]
      cases item with
      | escaped => rfl
      | raw c =>
          have unchanged : ending.replace [c] = [c] := ending.replace_of_not_mem inLine.1
          rw [replaceItem, unchanged]
          rfl

end LineEnding

/-- A word of some characters, and the word of the same characters with other line endings. They
are the same, unless they are strings: a string holds its line breaks as they are written. -/
inductive Word.Corresponds (ending : LineEnding) : List Char → Word → Word → Prop
  | same (characters : List Char) (word : Word) (noString : word.kind ≠ .value .string) :
      Corresponds ending characters word word
  | string (quote : Char) (items : List StringItem) (inside : ∀ item ∈ items, item.IsIn quote) :
      Corresponds ending (quote :: (StringItem.spelling items ++ [quote]))
        ⟨.value .string, some (.text (StringItem.content items))⟩
        ⟨.value .string, some (.text (StringItem.content (ending.replaceIn items)))⟩

namespace Lexeme

/-- Only a quote starts a string. -/
theorem mem_quoteChars_of_read {c : Char} {rest : List Char}
    (isString : (read c rest).kind = .value .string) : c ∈ quoteChars := by
  have sound := read_isSound c rest
  unfold read at isString sound
  split at isString
  case h_3 =>
    unfold readContinuation at isString
    split at isString <;> cases isString
  case h_4 kind lead =>
    rw [lead] at sound
    obtain rfl : kind = .value .string := isString
    cases sound
  case h_6 lead => simpa [quoteChars] using Lead.char_of lead
  case h_7 =>
    unfold readNumber at isString
    dsimp only at isString
    split at isString
    · cases isString
    · split at isString
      · simp only at isString
        split at isString <;> cases isString
      · cases isString
  all_goals cases isString

/-- The characters whose lexemes hold line breaks. -/
def breakingChars : List Char :=
  ['\n', '\r', '\\', '"', '\'']

/-- No such lexeme goes on with a line break behind it. -/
theorem joins_of_isLineEnd {kind : Kind} {c d : Char} (ordinary : c ∉ breakingChars)
    (starts : kind.startsWith c = true) (ends : isLineEnd d = true) : kind.joins d = false := by
  match kind with
  | .trivia .whitespace => rcases isLineEnd_iff.mp ends with rfl | rfl <;> rfl
  | .trivia .escapedNewline =>
      obtain rfl := beq_iff_eq.mp starts
      exact absurd (by decide) ordinary
  | .terminator .newline =>
      rcases isLineEnd_iff.mp starts with rfl | rfl <;> exact absurd (by decide) ordinary
  | .terminator .semicolon => rfl
  | .comment => rw [Kind.joins, ends]; rfl
  | .value _ => rfl
  | .opening _ => rfl
  | .closing _ => rfl
  | .eof => rfl
  | .fail => rfl

/-- What starts with another character is read without a look behind the end of its line. -/
theorem read_line {c : Char} (ordinary : c ∉ breakingChars) {line tail : List Char}
    (ends : ∀ d ∈ tail.head?, isLineEnd d = true) : read c (line ++ tail) = read c line := by
  have within : (read c (line ++ [])).length ≤ line.length + 1 := by
    rw [List.append_nil]
    exact read_length_le c line
  have separated : IsSeparated tail := fun d isHead => by
    rcases isLineEnd_iff.mp (ends d isHead) with rfl | rfl <;> decide
  by_cases sound : (read c (line ++ [])).kind = .fail
  · have sameLead := lead_congr within separated
    rw [List.append_nil] at sound sameLead
    simp only [breakingChars, List.mem_cons, List.not_mem_nil, or_false, not_or] at ordinary
    obtain ⟨lineFeed, carriageReturn, backslash, double, single⟩ := ordinary
    cases lead : Lead.of c line.head? with
    | number =>
        have ends : (readNumber (c :: line ++ [])).length ≤ (c :: line).length := by
          rw [List.append_nil]
          simpa only [read, lead, List.length_cons] using read_length_le c line
        have congr := readNumber_congr (List.cons_ne_nil c line) ends separated
        rw [List.append_nil] at congr
        simpa only [read, lead, sameLead, List.cons_append] using congr
    | backslash => exact absurd (Lead.char_of lead) backslash
    | quote =>
        have isQuote : c = '"' ∨ c = '\'' := Lead.char_of lead
        simp [double, single] at isQuote
    | stranger => simp only [read, lead, sameLead]
    | single kind => simp only [read, lead, sameLead]
    | _ =>
        simp only [read, lead] at sound
        cases sound
  · have congr := read_congr sound within separated fun _ d isHead =>
      .inl (joins_of_isLineEnd ordinary (startsWith_read c _) (ends d isHead))
    rwa [List.append_nil] at congr

/-- A lexeme without line breaks is read in the same way in front of other line endings. -/
theorem read_replace (ending : LineEnding) {c : Char} {others rest : List Char}
    (ordinary : c ∉ breakingChars)
    (length : (read c (others ++ rest)).length = others.length + 1) :
    '\n' ∉ others ∧ read c (others ++ ending.replace rest) = read c (others ++ rest) := by
  obtain ⟨line, tail, isLine, inLine, ends⟩ : ∃ line tail, others ++ rest = line ++ tail ∧
      '\n' ∉ line ∧ ∀ d ∈ tail.head?, d = '\n' := by
    refine ⟨(others ++ rest).takeWhile (· != '\n'), (others ++ rest).dropWhile (· != '\n'),
      List.takeWhile_append_dropWhile.symm, fun member => ?_, fun d isHead => ?_⟩
    · simpa using List.mem_takeWhile_imp member
    · have stopped := List.head?_dropWhile_not (· != '\n') (others ++ rest)
      rw [isHead] at stopped
      simpa using stopped
  have lineEnds : ∀ d ∈ tail.head?, isLineEnd d = true := fun d isHead => by
    rw [ends d isHead]
    rfl
  have otherEnds : ∀ d ∈ (ending.replace tail).head?, isLineEnd d = true := fun d isHead => by
    cases tail with
    | nil => cases isHead
    | cons e tail =>
        obtain rfl := ends e rfl
        obtain rfl : '\r' = d := Option.some.inj isHead
        rfl
  rw [isLine, read_line ordinary lineEnds] at length ⊢
  have within := read_length_le c line
  obtain ⟨behind, rfl⟩ := exists_eq_append_of_length_le isLine.symm (by omega)
  rw [List.append_assoc, List.append_cancel_left_eq] at isLine
  rw [List.mem_append, not_or] at inLine
  refine ⟨inLine.1, ?_⟩
  rw [isLine, ending.replace_append, ending.replace_of_not_mem inLine.2, ← List.append_assoc,
    read_line ordinary otherEnds]

/-- A lexeme of some characters, and that of the same characters with other line endings: it
ends where they end, and its word corresponds. -/
def HasReplacement (ending : LineEnding) (c : Char) (others rest : List Char) : Prop :=
  ∃ d behind, ending.replace (c :: others) = d :: behind ∧
    (read d (behind ++ ending.replace rest)).length = behind.length + 1 ∧
    Word.Corresponds ending (c :: others) (read c (others ++ rest)).word
      (read d (behind ++ ending.replace rest)).word

section

variable (ending : LineEnding) {c : Char} {others rest : List Char}

/-- The end of a line is the end of a line. -/
theorem hasReplacement_lineFeed
    (length : (read '\n' (others ++ rest)).length = others.length + 1) :
    HasReplacement ending '\n' others rest := by
  rw [read_lineBreak rfl] at length
  obtain rfl : others = [] := List.length_eq_zero_iff.mp (Nat.succ.inj length).symm
  have breaks := ending.lineBreakLength_characters rest
  rw [LineEnding.characters, List.cons_append, List.length_cons] at breaks
  refine ⟨'\r', ending.lineFeed, ?_, ?_, ?_⟩
  · rw [ending.replace_lineFeed, ending.replace_nil, List.append_nil]
    rfl
  · rw [read_lineBreak rfl, breaks]
    rfl
  · rw [read_lineBreak rfl, read_lineBreak rfl]
    exact .same _ ⟨.terminator .newline, none⟩ (by decide)

/-- A joined line is a joined line. -/
theorem hasReplacement_backslash (noReturn : '\r' ∉ others ++ rest)
    (sound : (read '\\' (others ++ rest)).kind ≠ .fail)
    (length : (read '\\' (others ++ rest)).length = others.length + 1) :
    HasReplacement ending '\\' others rest := by
  have isContinuation : ∀ text, read '\\' text = readContinuation text := fun _ => rfl
  rw [isContinuation, readContinuation] at sound length
  cases behind : others ++ rest with
  | nil =>
      rw [behind] at sound
      exact absurd rfl sound
  | cons d more =>
      rw [behind] at sound length noReturn
      by_cases breaks : d = '\n'
      · subst breaks
        have isSingle : others.length = 1 := (Nat.succ.inj length).symm
        obtain ⟨e, rfl⟩ := List.length_eq_one_iff.mp isSingle
        obtain ⟨rfl, rfl⟩ := List.cons.inj behind
        have isWidth := ending.lineBreakLength_characters rest
        refine ⟨'\\', ending.characters, ?_, ?_, ?_⟩
        · rw [ending.replace_cons_of_ne (by decide), ending.replace_lineFeed, ending.replace_nil,
            List.append_nil]
        · rw [isContinuation, readContinuation, isWidth]
          rfl
        · rw [isContinuation, isContinuation, readContinuation, readContinuation, isWidth]
          exact .same _ ⟨.trivia .escapedNewline, none⟩ (by decide)
      · rw [List.mem_cons, not_or] at noReturn
        have inLine : lineBreakLength (d :: more) = 0 := by
          rw [lineBreakLength_cons, if_neg breaks, if_neg (Ne.symm noReturn.1)]
        rw [inLine] at sound
        exact absurd rfl sound

/-- A string is a string of the line breaks that it is written with. -/
theorem hasReplacement_quote (isQuote : c ∈ quoteChars)
    (sound : (read c (others ++ rest)).kind ≠ .fail)
    (length : (read c (others ++ rest)).length = others.length + 1) :
    HasReplacement ending c others rest := by
  have noBackslash : c ≠ '\\' := by
    rintro rfl
    simp [quoteChars] at isQuote
  have noLineFeed : c ≠ '\n' := by
    rintro rfl
    simp [quoteChars] at isQuote
  obtain ⟨kind, value, taken, place, reads⟩ := exists_readsQuoted c (others ++ rest)
  have isRead := (read_of_quote isQuote _).trans (reads.readString_eq noBackslash)
  rw [isRead] at sound length
  generalize whole : others ++ rest = text at reads
  cases reads with
  | @closed items inside behind =>
      obtain ⟨rfl, rfl⟩ : others = StringItem.spelling items ++ [c] ∧ rest = behind := by
        refine List.append_inj ?_ (Nat.succ.inj length).symm
        rw [whole, List.append_assoc, List.singleton_append]
      have otherReads := (ReadsQuoted.closed (ending.isIn_replaceIn isQuote inside)
        (ending.replace rest)).readString_eq noBackslash
      rw [← List.singleton_append, ← List.append_assoc] at otherReads
      refine ⟨c, StringItem.spelling (ending.replaceIn items) ++ [c], ?_, ?_, ?_⟩
      · rw [ending.replace_cons_of_ne noLineFeed, ending.replace_append,
          ending.replace_spelling inside, ending.replace_cons_of_ne noLineFeed, ending.replace_nil]
      · rw [read_of_quote isQuote, otherReads]
        rfl
      · rw [isRead, read_of_quote isQuote, otherReads]
        exact .string c items inside
  | _ => exact absurd rfl sound

/-- Lexemes that are not malformed correspond to those of the text with other line endings. -/
theorem hasReplacement (noReturn : '\r' ∉ c :: (others ++ rest))
    (sound : (read c (others ++ rest)).kind ≠ .fail)
    (length : (read c (others ++ rest)).length = others.length + 1) :
    HasReplacement ending c others rest := by
  rw [List.mem_cons, not_or] at noReturn
  by_cases ordinary : c ∈ breakingChars
  · simp only [breakingChars, List.mem_cons, List.not_mem_nil, or_false] at ordinary
    rcases ordinary with rfl | rfl | rfl | isQuote
    · exact hasReplacement_lineFeed ending length
    · exact absurd rfl noReturn.1
    · exact hasReplacement_backslash ending noReturn.2 sound length
    · exact hasReplacement_quote ending (by simpa [quoteChars] using isQuote) sound length
  · obtain ⟨inLine, same⟩ := read_replace ending ordinary length
    have noLineFeed : c ≠ '\n' := by
      rintro rfl
      exact ordinary (by decide)
    have noString : (read c (others ++ rest)).kind ≠ .value .string := fun isString => by
      have isQuote := mem_quoteChars_of_read isString
      rcases List.mem_pair.mp isQuote with rfl | rfl <;> exact ordinary (by decide)
    refine ⟨c, others, ?_, by rw [same, length], by rw [same]; exact .same _ _ noString⟩
    rw [ending.replace_cons_of_ne noLineFeed, ending.replace_of_not_mem inLine]

end

end Lexeme

/-- A token of a text, and the token of the text with other line endings: they are on the same
line and in the same column, and their words correspond. -/
structure Token.Corresponds (ending : LineEnding) (text : List Char) (token other : Token) :
    Prop where
  word : Word.Corresponds ending (text.extract token.span.start token.span.stop) token.word
    other.word
  line : other.span.line = token.span.line
  column : other.span.column = token.span.column

/-- The kinds of words that correspond are the same. -/
theorem Word.Corresponds.kind {ending : LineEnding} {characters : List Char} {word other : Word}
    (corresponds : Word.Corresponds ending characters word other) : other.kind = word.kind := by
  cases corresponds <;> rfl

/-- Words that correspond are the same, unless they are strings that are written with line
breaks. -/
theorem Word.Corresponds.eq_of_not_mem {ending : LineEnding} {characters : List Char}
    {word other : Word} (corresponds : Word.Corresponds ending characters word other)
    (inLine : word.kind = .value .string → '\n' ∉ characters) : other = word := by
  cases corresponds with
  | same => rfl
  | string quote items inside =>
      have noBreak := inLine rfl
      rw [List.mem_cons, List.mem_append, not_or, not_or] at noBreak
      rw [ending.replaceIn_of_not_mem noBreak.2.1]

/-- A lexeme that is not malformed stands in the text with other line endings as well: behind the
same characters as before, and in front of the same characters as before. -/
theorem Lexeme.exists_tokenAt_replace (ending : LineEnding) {text : List Char} {offset : Nat}
    {c : Char} {rest : List Char} (noReturn : '\r' ∉ text) (behind : text.drop offset = c :: rest)
    (sound : ((read c rest).tokenAt text offset).isFail = false) :
    ∃ d others, (ending.replace text).drop (ending.replace (text.take offset)).length =
        d :: others ∧
      (ending.replace (text.take offset)).length + (read d others).length =
        (ending.replace (text.take (offset + (read c rest).length))).length ∧
      Token.Corresponds ending text ((read c rest).tokenAt text offset)
        ((read d others).tokenAt (ending.replace text)
          (ending.replace (text.take offset)).length) := by
  obtain ⟨front, back, rfl, length⟩ : ∃ front back, rest = front ++ back ∧
      (read c rest).length = front.length + 1 := by
    have positive := read_length_pos c rest
    have within := read_length_le c rest
    refine ⟨rest.take ((read c rest).length - 1), _, (List.take_append_drop _ rest).symm, ?_⟩
    rw [List.length_take_of_le] <;> omega
  have characters : (text.drop offset).take (front.length + 1) = c :: front := by
    rw [behind, List.take_succ_cons, List.take_left]
  have noReturnBehind : '\r' ∉ c :: (front ++ back) := fun member =>
    noReturn (List.mem_of_mem_drop (behind ▸ member))
  obtain ⟨d, more, isReplaced, otherLength, corresponds⟩ :=
    hasReplacement ending noReturnBehind (beq_eq_false_iff_ne.mp sound) length
  have otherBehind : (ending.replace text).drop (ending.replace (text.take offset)).length =
      d :: (more ++ ending.replace back) := by
    rw [ending.drop_replace, behind, ← List.cons_append, ending.replace_append, isReplaced,
      List.cons_append]
  have otherSound : ((read d (more ++ ending.replace back)).tokenAt (ending.replace text)
      (ending.replace (text.take offset)).length).isFail = false := by
    rw [← sound]
    exact congrArg (· == Kind.fail) corresponds.kind
  have placed := (tokenAt_standsIn behind sound).placed
  have otherPlaced := (tokenAt_standsIn otherBehind otherSound).placed
  have within : offset ≤ text.length := by
    have length := length_of_drop_eq_cons behind
    omega
  obtain ⟨line, column⟩ := ending.alignsWith_ofOffset noReturn within
  refine ⟨d, more ++ ending.replace back, otherBehind, ?_, ?_, ?_, ?_⟩
  · rw [otherLength, length, List.take_add, characters, ending.replace_append, isReplaced,
      List.length_append, List.length_cons]
  · have isExtract : text.extract offset (offset + (read c (front ++ back)).length) =
        c :: front := by
      rw [List.extract_eq_take_drop, Nat.add_sub_cancel_left, length, characters]
    exact isExtract ▸ corresponds
  · exact otherPlaced.line.trans (line.trans placed.line.symm)
  · exact otherPlaced.column.trans (column.trans placed.column.symm)

namespace Cursor

/-- If no token of a text is malformed, then the tokens of the text with other line endings
correspond to them, one by one. -/
theorem tokens_replace (ending : LineEnding) {text : List Char} (noReturn : '\r' ∉ text)
    (sound : ∀ token ∈ (ofOffset text 0).tokens, token.isFail = false) :
    List.Forall₂ (Token.Corresponds ending text) (ofOffset text 0).tokens
      (ofOffset (ending.replace text) 0).tokens := by
  suffices ∀ {offset}, offset ≤ text.length →
      (∀ token ∈ (ofOffset text offset).tokens, token.isFail = false) →
      List.Forall₂ (Token.Corresponds ending text) (ofOffset text offset).tokens
        (ofOffset (ending.replace text) (ending.replace (text.take offset)).length).tokens from
    this (Nat.zero_le _) sound
  intro offset inside
  refine offset_induction ?_ ?_ inside
  · intro _
    obtain ⟨line, column⟩ := ending.alignsWith_ofOffset noReturn (Nat.le_refl text.length)
    rw [List.take_length] at line column ⊢
    rw [tokens_end, tokens_end]
    exact .cons ⟨.same _ ⟨.eof, none⟩ (by decide), line, column⟩ .nil
  · intro offset c rest behind others allSound
    rw [tokens_ofOffset behind] at allSound ⊢
    obtain ⟨firstSound, othersSound⟩ := List.forall_mem_cons.mp allSound
    obtain ⟨d, otherRest, otherBehind, stop, corresponds⟩ :=
      Lexeme.exists_tokenAt_replace ending noReturn behind firstSound
    rw [tokens_ofOffset otherBehind, stop]
    exact .cons corresponds (others othersSound)

end Cursor

end BlockData
