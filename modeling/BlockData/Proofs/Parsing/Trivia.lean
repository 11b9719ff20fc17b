import BlockData.Proofs.Lexing.Leaves
import BlockData.Proofs.Lexing.Seams
import BlockData.Proofs.Parsing.Decisions
import BlockData.Proofs.Parsing.Malformed
import Mathlib

/-!
# Layout of texts

Blanks between two tokens say nothing, and neither does a line that is joined with the next
one. They may be inserted at every seam of a text without changing its words
(`words_insert`). Only a comment would go on with a backslash, and blanks at its end are no
part of what it says.
-/

namespace BlockData

/-- A joined line in front of a text adds nothing. -/
theorem words_joinedLine (rest : List Char) : words ('\\' :: '\n' :: rest) = words rest :=
  words_continuation (by simp [lineBreakLength])

namespace Character

/-- A blank is white space. -/
theorem isWhiteSpace_of_isBlank {c : Char} (blank : isBlank c = true) : isWhiteSpace c = true := by
  rcases isBlank_iff.mp blank with rfl | rfl <;> decide

/-- Blanks at the end of a text are trimmed. -/
theorem trim_append_blanks {blanks : List Char} (areBlank : ∀ c ∈ blanks, isBlank c = true)
    (text : List Char) : trim (text ++ blanks) = trim text := by
  have areWhite : ∀ c ∈ blanks, isWhiteSpace c = true := fun c member =>
    isWhiteSpace_of_isBlank (areBlank c member)
  have trimmedEnd : ∀ kept : List Char,
      (kept ++ blanks).rdropWhile isWhiteSpace = kept.rdropWhile isWhiteSpace := fun kept => by
    rw [List.rdropWhile, List.reverse_append,
      List.dropWhile_append_of_pos (by simpa using areWhite), List.rdropWhile]
  rw [trim_eq_rdropWhile, trim_eq_rdropWhile, List.dropWhile_append]
  split
  · rename_i none
    rw [List.isEmpty_iff] at none
    rw [none, List.dropWhile_eq_nil_iff.mpr areWhite]
  · exact trimmedEnd _

end Character

/-- Blanks, or a joined line that does not follow a comment. -/
def IsLayout (lexemes : List Lexeme) (inserted : List Char) : Prop :=
  (∀ c ∈ inserted, isBlank c = true) ∨
    inserted = ['\\', '\n'] ∧ ∀ last ∈ lexemes.getLast?, last.kind ≠ .comment

namespace IsLayout

variable {lexemes : List Lexeme} {inserted rest : List Char}

/-- Layout in front of a text adds nothing. -/
theorem words_append (isLayout : IsLayout lexemes inserted) (rest : List Char) :
    words (inserted ++ rest) = words rest := by
  rcases isLayout with areBlank | ⟨rfl, -⟩
  · exact words_blanks areBlank rest
  · exact words_joinedLine rest

/-- Layout is separated from what stands before it. -/
theorem isSeparated (isLayout : IsLayout lexemes inserted) (nonempty : inserted ≠ []) :
    IsSeparated (inserted ++ rest) := by
  obtain ⟨c, others, rfl⟩ := List.exists_cons_of_ne_nil nonempty
  rintro _ ⟨rfl⟩
  rcases isLayout with areBlank | ⟨joined, -⟩
  · rcases isBlank_iff.mp (areBlank c List.mem_cons_self) with rfl | rfl <;> decide
  · obtain ⟨rfl, -⟩ := List.cons.inj joined
    decide

/-- A lexeme that goes on with layout is white space or a comment, and the layout is blanks. -/
theorem of_joins (isLayout : IsLayout lexemes inserted) {last : Lexeme}
    (isLast : last ∈ lexemes.getLast?) {c : Char} (isHead : c ∈ inserted.head?)
    (joins : last.kind.joins c = true) :
    (∀ c ∈ inserted, isBlank c = true) ∧
      (last.kind = .trivia .whitespace ∨ last.kind = .comment) := by
  have whichKind : last.kind = .trivia .whitespace ∨ last.kind = .comment ∨ c = '\n' := by
    unfold Kind.joins at joins
    split at joins <;> simp_all
  rcases isLayout with areBlank | ⟨rfl, noComment⟩
  · refine ⟨areBlank, ?_⟩
    rcases whichKind with isWhitespace | isComment | rfl
    · exact .inl isWhitespace
    · exact .inr isComment
    · exact absurd (areBlank '\n' (List.mem_of_mem_head? isHead)) (by decide)
  · obtain rfl : '\\' = c := Option.some.inj isHead
    rcases whichKind with isWhitespace | isComment | isLineFeed
    · rw [isWhitespace] at joins
      cases joins
    · exact absurd isComment (noComment last isLast)
    · cases isLineFeed

end IsLayout

/-- A last lexeme that layout could go on with says the same when it is inserted behind. -/
theorem words_insert_behind {last : Lexeme} {front rest inserted : List Char}
    (spelled : Spelled front [last] rest) (areBlank : ∀ c ∈ inserted, isBlank c = true)
    (goesOn : last.kind = .trivia .whitespace ∨ last.kind = .comment) :
    words (front ++ (inserted ++ rest)) = words (front ++ rest) := by
  obtain ⟨c, others, rfl, rfl, length⟩ := spelled.exists_read
  rcases goesOn with isWhitespace | isComment
  · have blanks := Lexeme.isBlank_of_read c others rest isWhitespace length
    rw [words_blanks blanks, words_blanks blanks, words_blanks areBlank]
  · obtain ⟨rfl, inLine, lineEnds⟩ := Lexeme.line_of_read c others rest isComment length
    have longer : ∀ d ∈ others ++ inserted, isLineEnd d = false := fun d member => by
      rcases List.mem_append.mp member with inside | added
      · exact inLine d inside
      · rcases isBlank_iff.mp (areBlank d added) with rfl | rfl <;> rfl
    have reads := hash_readsAs (others ++ inserted) longer lineEnds
    rw [Character.trim_append_blanks areBlank] at reads
    rw [← List.append_assoc, List.cons_append, reads.words_append,
      (hash_readsAs others inLine lineEnds).words_append]

/-- Layout between some lexemes and the rest of a text does not change its words. -/
theorem words_insert {front rest inserted : List Char} {lexemes : List Lexeme}
    (spelled : Spelled front lexemes rest) (sound : ∀ lexeme ∈ lexemes, lexeme.kind ≠ .fail)
    (isLayout : IsLayout lexemes inserted) :
    words (front ++ (inserted ++ rest)) = words (front ++ rest) := by
  by_cases empty : inserted = []
  · rw [empty, List.nil_append]
  by_cases goesOn : ∃ last ∈ lexemes.getLast?, ∃ c ∈ inserted.head?, last.kind.joins c = true
  · obtain ⟨last, isLast, c, isHead, joins⟩ := goesOn
    obtain ⟨areBlank, whichKind⟩ := isLayout.of_joins isLast isHead joins
    obtain ⟨earlier, rfl⟩ := List.getLast?_eq_some_iff.mp isLast
    obtain ⟨left, right, rfl, before, behind⟩ := spelled.exists_split
    have isSeparator : last.kind.isSeparator = true := by
      rcases whichKind with isKind | isKind <;> rw [isKind] <;> rfl
    have apart : Spelled left earlier (right ++ (inserted ++ rest)) :=
      before.congr_behind behind isSeparator
        (fun lexeme member => sound lexeme (List.mem_append_left _ member)) _
    rw [List.append_assoc, List.append_assoc, apart.words_append, before.words_append,
      words_insert_behind behind areBlank whichKind]
  · have apart : Spelled front lexemes (inserted ++ rest) :=
      spelled.congr (isLayout.isSeparated empty) sound fun last isLast c isHead =>
        .inl (Bool.eq_false_iff.mpr fun joins => goesOn ⟨last, isLast, c, ?_, joins⟩)
    · rw [apart.words_append, spelled.words_append, isLayout.words_append]
    · obtain ⟨d, others, rfl⟩ := List.exists_cons_of_ne_nil empty
      exact isHead

/-- Streams of the same words have the same words at all positions. -/
theorem TokenStream.word_token_congr {first second : TokenStream}
    (same : first.tokens.map Token.word = second.tokens.map Token.word) (position : Nat) :
    (first.token position).word = (second.token position).word := by
  have listed : ∀ stream : TokenStream, (stream.token position).word =
      (stream.tokens.map Token.word).getD position ⟨.eof, none⟩ := fun stream =>
    (List.getD_map _ _ Token.word).symm
  rw [listed, listed, same]

/-- Texts of the same words both have trees, which differ in places only, or are both
refused with errors that say the same. -/
theorem parse_alike_of_words {first second : String}
    (same : words first.toList = words second.toList) :
    (∃ tree other, parse first = .ok tree ∧ parse second = .ok other ∧
        other.unplaced = tree.unplaced) ∨
      ∃ error other, parse first = .error error ∧ parse second = .error other ∧
        error.SaysSame other := by
  have sameWord := TokenStream.word_token_congr
    (((Cursor.ofString first).map_word_significant.trans same).trans
      (Cursor.ofString second).map_word_significant.symm)
  have sameShown : ∀ position,
      ((Cursor.ofString first).significant.token position).shown id =
        ((Cursor.ofString second).significant.token position).shown id := fun position =>
    congrArg (fun word : Word => (word.kind.merged, word.value)) (sameWord position)
  have agree :
      (Cursor.ofString first).significant.AgreesWith (Cursor.ofString second).significant :=
    fun position _ => congrArg Prod.fst (sameShown position)
  rcases agree.parse_alike with
    ⟨position, program, other, derives, otherDerives, -, parsed, otherParsed⟩ |
    ⟨-, error, other, failed, otherFailed, -, -, -, -, saysSame⟩
  · refine .inl ⟨_, _, parsed, otherParsed, ?_⟩
    have shown : other.tokens.map (Token.shown id) = program.tokens.map (Token.shown id) := by
      rw [derives, otherDerives, TokenStream.firstTokens, TokenStream.firstTokens, List.map_map,
        List.map_map]
      exact List.map_congr_left fun index _ => (sameShown index).symm
    have sameNodes := Derivation.viewedAll_nodes_congr shown
    rw [Node.viewedAll_id, Node.viewedAll_id] at sameNodes
    simp only [Derivation.tree, Node.unplaced, Node.unplacedAll, sameNodes]
  · exact .inr ⟨error, other, failed, otherFailed, saysSame⟩

/-- The tokens that the grammar sees have the words of the text and the end of input. -/
theorem map_word_filter_isSeen (source : String) :
    ((Cursor.ofString source).tokens.filter Token.isSeen).map Token.word =
      words source.toList ++ [⟨.eof, none⟩] := by
  rw [Cursor.filter_tokens, List.map_append, Cursor.map_word_significant]
  rfl

/-- Layout never changes what a text says. If no token of the text is malformed, then blanks
may be inserted at every boundary between tokens, and a joined line at every one that is not
the end of a comment: the kinds and values of the tokens that the grammar sees stay the same.
So both texts have trees, which differ in places only, or both are refused in the same way. -/
theorem parse_ignores_layout {source : String} {boundary : Nat} {inserted : List Char}
    (sound : ∀ token ∈ (Cursor.ofString source).tokens, token.isFail = false)
    (isBoundary : boundary = 0 ∨
      ∃ token ∈ (Cursor.ofString source).tokens, token.span.stop = boundary)
    (isLayout : (∀ c ∈ inserted, c = ' ' ∨ c = '\t') ∨ inserted = ['\\', '\n'] ∧
      ∀ token ∈ (Cursor.ofString source).tokens, token.span.stop = boundary →
        token.kind ≠ .comment) :
    let spread := String.ofList
      (source.toList.take boundary ++ inserted ++ source.toList.drop boundary)
    ((Cursor.ofString spread).tokens.filter Token.isSeen).map Token.word =
        ((Cursor.ofString source).tokens.filter Token.isSeen).map Token.word ∧
      ((∃ tree other, parse source = .ok tree ∧ parse spread = .ok other ∧
          other.unplaced = tree.unplaced) ∨
        ∃ found wanted line column otherLine otherColumn,
          parse source = .error (.unexpected found wanted line column) ∧
          parse spread = .error (.unexpected found wanted otherLine otherColumn)) := by
  intro spread
  obtain ⟨lexemes, before, spelled, sameWords, isFront, isLast⟩ :
      ∃ lexemes before,
        Spelled (source.toList.take boundary) lexemes (source.toList.drop boundary) ∧
        lexemes.map Lexeme.word = before.map Token.word ∧
        before <+: (Cursor.ofString source).tokens ∧
        ∀ last ∈ before.getLast?, last.span.stop = boundary := by
    rw [Cursor.ofString_eq] at isBoundary ⊢
    exact Cursor.exists_spelled_boundary isBoundary
  have allSound : ∀ lexeme ∈ lexemes, lexeme.kind ≠ .fail := fun lexeme member => by
    obtain ⟨token, member, sameKind⟩ := exists_token_of_mem sameWords member
    rw [← sameKind]
    exact beq_eq_false_iff_ne.mp (sound token (isFront.subset member))
  have fits : IsLayout lexemes inserted := by
    rcases isLayout with areBlank | ⟨rfl, noComment⟩
    · exact .inl fun c member => isBlank_iff.mpr (areBlank c member)
    · refine .inr ⟨rfl, fun last isLastLexeme => ?_⟩
      obtain ⟨token, isLastToken, sameKind⟩ := exists_token_of_getLast? sameWords isLastLexeme
      rw [← sameKind]
      exact noComment token (isFront.subset (List.mem_of_mem_getLast? isLastToken))
        (isLast token isLastToken)
  have same : words spread.toList = words source.toList := by
    have unchanged := words_insert spelled allSound fits
    rw [List.take_append_drop, ← List.append_assoc] at unchanged
    rwa [String.toList_ofList]
  constructor
  · rw [map_word_filter_isSeen, map_word_filter_isSeen, same]
  · rcases parse_alike_of_words same.symm with ⟨tree, other, parsed, otherParsed, sameTree⟩ |
      ⟨error, other, failed, otherFailed, saysSame⟩
    · exact .inl ⟨tree, other, parsed, otherParsed, sameTree⟩
    · cases saysSame with
      | lexical error other =>
          obtain ⟨token, member, malformed⟩ := exists_isFail_of_parse failed
          rw [sound token member] at malformed
          cases malformed
      | unexpected found wanted line column otherLine otherColumn =>
          exact .inr ⟨found, wanted, line, column, otherLine, otherColumn, failed, otherFailed⟩

/-- The line of a symbol and a hyphen is joined between the two. -/
theorem parse_ignores_layout_before_hyphen :
    let source := "a-\n"
    let spread := String.ofList (source.toList.take 1 ++ ['\\', '\n'] ++ source.toList.drop 1)
    (∀ token ∈ (Cursor.ofString source).tokens, token.isFail = false) ∧
      (∃ token ∈ (Cursor.ofString source).tokens, token.span.stop = 1) ∧
      (∀ token ∈ (Cursor.ofString source).tokens, token.span.stop = 1 → token.kind ≠ .comment) ∧
      ((Cursor.ofString spread).tokens.filter Token.isSeen).map Token.word =
        ((Cursor.ofString source).tokens.filter Token.isSeen).map Token.word ∧
      ((∃ tree other, parse source = .ok tree ∧ parse spread = .ok other ∧
          other.unplaced = tree.unplaced) ∨
        ∃ found wanted line column otherLine otherColumn,
          parse source = .error (.unexpected found wanted line column) ∧
          parse spread = .error (.unexpected found wanted otherLine otherColumn)) := by
  intro source spread
  have symbol : "a-\n".toList.drop 0 = 'a' :: ['-', '\n'] := rfl
  have hyphen : "a-\n".toList.drop 1 = '-' :: ['\n'] := rfl
  have lineEnd : "a-\n".toList.drop 2 = '\n' :: [] := rfl
  have stream : (Cursor.ofString source).tokens = _ :: _ :: _ :: [endToken "a-\n".toList] :=
    (Cursor.tokens_ofOffset symbol).trans (congrArg _ ((Cursor.tokens_ofOffset hyphen).trans
      (congrArg _ ((Cursor.tokens_ofOffset lineEnd).trans
        (congrArg _ (Cursor.tokens_end "a-\n".toList))))))
  have sound : ∀ token ∈ (Cursor.ofString source).tokens, token.isFail = false := by
    rw [stream]
    decide
  have isEnd : ∃ token ∈ (Cursor.ofString source).tokens, token.span.stop = 1 := by
    rw [stream]
    exact ⟨_, List.mem_cons_self, rfl⟩
  have noComment : ∀ token ∈ (Cursor.ofString source).tokens, token.span.stop = 1 →
      token.kind ≠ .comment := by
    rw [stream]
    decide
  exact ⟨sound, isEnd, noComment,
    parse_ignores_layout sound (.inr isEnd) (.inr ⟨rfl, noComment⟩)⟩

end BlockData
