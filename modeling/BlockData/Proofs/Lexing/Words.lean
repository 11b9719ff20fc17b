import BlockData.Cursor
import BlockData.Proofs.Lexing.Soundness

/-!
# Words of texts

`words` reads a text without keeping places and without what the grammar never sees. It
gives the words of the tokens that the parser gets (`Cursor.map_word_significant`). No
lexeme looks at what stands before it, so a text is read piece by piece: a lexeme in
front of a text adds its word (`ReadsAs.words_append`), and blanks add none.
-/

namespace BlockData

/-- The word of a token. -/
def Token.word (token : Token) : Word :=
  ⟨token.kind, token.value⟩

/-- The words of a text, malformed ones included. -/
def words : List Char → List Word
  | [] => []
  | c :: rest =>
      let lexeme := Lexeme.read c rest
      have _positive := Lexeme.read_length_pos c rest
      let others := words ((c :: rest).drop lexeme.length)
      if lexeme.kind ∈ ignoredKinds then others else lexeme.word :: others
termination_by text => text.length
decreasing_by simp only [List.length_drop, List.length_cons]; omega

@[simp] theorem words_nil : words [] = [] := by
  rw [words]

/-- A lexeme that the grammar sees adds its word. -/
theorem words_of_kept {c : Char} {rest : List Char}
    (kept : (Lexeme.read c rest).kind ∉ ignoredKinds) :
    words (c :: rest) = (Lexeme.read c rest).word ::
      words ((c :: rest).drop (Lexeme.read c rest).length) := by
  rw [words]
  exact if_neg kept

/-- A lexeme that the grammar never sees adds nothing. -/
theorem words_of_ignored {c : Char} {rest : List Char}
    (ignored : (Lexeme.read c rest).kind ∈ ignoredKinds) :
    words (c :: rest) = words ((c :: rest).drop (Lexeme.read c rest).length) := by
  rw [words]
  exact if_pos ignored

/-- All words of a text are sound. -/
theorem isSound_of_mem_words {text : List Char} {word : Word} (member : word ∈ words text) :
    word.IsSound := by
  fun_induction words text with
  | case1 => cases member
  | case2 c rest lexeme positive others ignored inductionHypothesis =>
      exact inductionHypothesis member
  | case3 c rest lexeme positive others kept inductionHypothesis =>
      rcases List.mem_cons.mp member with rfl | member
      · exact Lexeme.read_isSound c rest
      · exact inductionHypothesis member

/-- No lexeme is the end of input. -/
theorem Lexeme.read_kind_ne_eof (c : Char) (rest : List Char) :
    (Lexeme.read c rest).kind ≠ .eof := by
  intro isEnd
  have sound := Lexeme.read_isSound c rest
  rw [Lexeme.word, isEnd] at sound
  exact sound

namespace Cursor

/-- A step of a cursor takes the first word that the grammar sees, unless there is none. -/
theorem words_nextOutside {cursor after : Cursor} {token : Token}
    (step : cursor.nextOutside ignoredKinds = (token, after)) :
    words cursor.rest = if token.kind = .eof then [] else token.word :: words after.rest := by
  fun_induction nextOutside ignoredKinds cursor with
  | case1 cursor first afterFirst firstStep kept =>
      cases step
      obtain ⟨position, text⟩ := cursor
      cases text with
      | nil =>
          cases firstStep
          simp [Token.atEnd]
      | cons c rest =>
          cases firstStep
          have notEnd := Lexeme.read_kind_ne_eof c rest
          have isKept : (Lexeme.read c rest).kind ∉ ignoredKinds := by
            rcases kept with isEnd | isFail | isKept
            · exact absurd isEnd notEnd
            · rw [show (Lexeme.read c rest).kind = .fail from isFail]
              decide
            · exact isKept
          exact (words_of_kept isKept).trans (if_neg notEnd).symm
  | case2 cursor first afterFirst firstStep skipped shorter inductionHypothesis =>
      obtain ⟨position, text⟩ := cursor
      rw [← inductionHypothesis step]
      simp only [not_or, not_not] at skipped
      cases text with
      | nil =>
          cases firstStep
          exact absurd rfl skipped.1
      | cons c rest =>
          cases firstStep
          exact words_of_ignored skipped.2.2

/-- The tokens that the parser gets have the words of the text. -/
theorem map_word_significant (cursor : Cursor) :
    cursor.significant.tokens.map Token.word = words cursor.rest := by
  fun_induction significant cursor with
  | case1 cursor token after step atEnd =>
      rw [words_nextOutside step, if_pos atEnd, List.map_nil]
  | case2 cursor token after step notAtEnd shorter others inductionHypothesis =>
      rw [words_nextOutside step, if_neg notAtEnd, List.map_cons, inductionHypothesis]

end Cursor

/-- Characters are one lexeme that the grammar sees, in front of a text. -/
structure ReadsAs (characters : List Char) (word : Word) (rest : List Char) : Prop where
  exists_read : ∃ c others, characters = c :: others ∧
    (Lexeme.read c (others ++ rest)).word = word ∧
    (Lexeme.read c (others ++ rest)).length = characters.length
  kept : word.kind ∉ ignoredKinds

/-- A lexeme in front of a text adds its word. -/
theorem ReadsAs.words_append {characters rest : List Char} {word : Word}
    (reads : ReadsAs characters word rest) :
    words (characters ++ rest) = word :: words rest := by
  obtain ⟨⟨c, others, rfl, rfl, length⟩, kept⟩ := reads
  rw [List.cons_append, words_of_kept kept, length, ← List.cons_append, List.drop_left]

/-- Whether a character is a blank. -/
def isBlank (c : Char) : Bool :=
  c == ' ' || c == '\t'

/-- A blank starts white space as long as the blanks go on. -/
theorem Lexeme.read_blank {c : Char} (blank : isBlank c = true) (rest : List Char) :
    read c rest = plain (.trivia .whitespace) ((rest.takeWhile isBlank).length + 1) := by
  have lead : Lead.of c rest.head? = .blank := by
    rw [Lead.of, if_pos (by simpa [isBlank] using blank)]
  rw [read, lead]
  rfl

/-- White space adds nothing. -/
theorem words_drop_blanks (text : List Char) :
    words (text.drop (text.takeWhile isBlank).length) = words text := by
  cases text with
  | nil => rfl
  | cons c rest =>
      by_cases blank : isBlank c = true
      · have ignored : (Lexeme.read c rest).kind ∈ ignoredKinds := by
          rw [Lexeme.read_blank blank]
          simp [Lexeme.plain, ignoredKinds]
        rw [words_of_ignored ignored, Lexeme.read_blank blank, List.takeWhile_cons_of_pos blank]
        rfl
      · rw [List.takeWhile_cons_of_neg blank]
        rfl

/-- A blank in front of a text adds nothing. -/
theorem words_blank {c : Char} (blank : isBlank c = true) (rest : List Char) :
    words (c :: rest) = words rest := by
  rw [← words_drop_blanks (c :: rest), List.takeWhile_cons_of_pos blank, List.length_cons,
    List.drop_succ_cons, words_drop_blanks]

/-- Blanks in front of a text add nothing. -/
theorem words_replicate_space (count : Nat) (rest : List Char) :
    words (List.replicate count ' ' ++ rest) = words rest := by
  induction count with
  | zero => rfl
  | succ count inductionHypothesis =>
      rw [List.replicate_succ, List.cons_append, words_blank rfl, inductionHypothesis]

/-- The word that ends a line. -/
def Word.lineEnd : Word :=
  ⟨.terminator .newline, none⟩

/-- A line feed in front of a text ends a line. -/
theorem words_lineFeed (rest : List Char) : words ('\n' :: rest) = .lineEnd :: words rest := by
  have reads : ReadsAs ['\n'] .lineEnd rest := ⟨⟨'\n', [], rfl, rfl, rfl⟩, by decide⟩
  exact reads.words_append

/-- A text that the word before it cannot run into. -/
def IsDetached (rest : List Char) : Prop :=
  ∀ c ∈ rest.head?, c = ' ' ∨ c = '\n'

/-- Nothing that excludes white space goes on into a detached text. -/
theorem IsDetached.takeWhile {p : Char → Bool} {rest : List Char} (detached : IsDetached rest)
    (space : p ' ' = false) (lineFeed : p '\n' = false) : rest.takeWhile p = [] := by
  cases rest with
  | nil => rfl
  | cons c others =>
      have outside : p c = false := by
        rcases detached c rfl with rfl | rfl
        · exact space
        · exact lineFeed
      rw [List.takeWhile_cons, outside, if_neg Bool.false_ne_true]

/-- All of a detached text is left behind what excludes white space. -/
theorem IsDetached.dropWhile {p : Char → Bool} {rest : List Char} (detached : IsDetached rest)
    (space : p ' ' = false) (lineFeed : p '\n' = false) : rest.dropWhile p = rest := by
  have split := List.takeWhile_append_dropWhile (p := p) (l := rest)
  rwa [detached.takeWhile space lineFeed, List.nil_append] at split

/-- Characters before a detached text are taken as a whole. -/
theorem IsDetached.takeWhile_append {p : Char → Bool} {rest characters : List Char}
    (detached : IsDetached rest) (all : ∀ c ∈ characters, p c = true) (space : p ' ' = false)
    (lineFeed : p '\n' = false) : (characters ++ rest).takeWhile p = characters := by
  rw [List.takeWhile_append_of_pos all, detached.takeWhile space lineFeed, List.append_nil]

/-- A detached text is left behind characters that are dropped as a whole. -/
theorem IsDetached.dropWhile_append {p : Char → Bool} {rest characters : List Char}
    (detached : IsDetached rest) (all : ∀ c ∈ characters, p c = true) (space : p ' ' = false)
    (lineFeed : p '\n' = false) : (characters ++ rest).dropWhile p = rest := by
  rw [List.dropWhile_append_of_pos all, detached.dropWhile space lineFeed]

end BlockData
