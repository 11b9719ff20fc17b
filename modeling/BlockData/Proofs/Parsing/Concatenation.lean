import BlockData.Proofs.Grammar.Alike
import BlockData.Proofs.Lexing.Leaves
import BlockData.Proofs.Lexing.Seams
import BlockData.Proofs.Parsing.Malformed
import Mathlib

/-!
# Programs one after the other

The statements of two texts that are written one after the other are those of the first
text and then those of the second one. The first text ends with a line, a closing bracket or
white space, so nothing but a line break may run into the second text; then the first text
takes over a blank statement, which leaves no node. Only a comment would go on with whatever
follows it.
-/

namespace BlockData

/-- The statements of a tree. -/
def Node.statements (tree : Node) : List Node :=
  tree.program?.elim [] Node.children

/-- The statements of the tree of a program are its nodes. -/
theorem Derivation.statements_tree (program : Derivation .program) (finalSpan : Span) :
    (program.tree finalSpan).statements = program.nodes :=
  rfl

/-- Words are those of a program with some statements, apart from places. -/
def HasStatements (words : List Word) (statements : List Node) : Prop :=
  ∃ program : Derivation .program, program.tokens.map Token.word = words ∧
    program.nodes.map Node.unplaced = statements

/-- The nodes of programs stand side by side if the programs are written one after the
other. -/
theorem Derivation.exists_append (first second : Derivation .program) :
    ∃ joined : Derivation .program, joined.tokens = first.tokens ++ second.tokens ∧
      joined.nodes = first.nodes ++ second.nodes := by
  suffices ∀ {phrase} (derivation : Derivation phrase), phrase = .program →
      ∃ joined : Derivation .program, joined.tokens = derivation.tokens ++ second.tokens ∧
        joined.nodes = derivation.nodes ++ second.nodes from this first rfl
  intro phrase derivation
  induction derivation with
  | emptyProgram =>
      intro _
      exact ⟨second, rfl, rfl⟩
  | program statement others _ inductionHypothesis =>
      intro _
      obtain ⟨joined, joinedTokens, joinedNodes⟩ := inductionHypothesis rfl
      refine ⟨.program statement joined, ?_, ?_⟩
      · rw [tokens, tokens, joinedTokens, List.append_assoc]
      · rw [nodes, nodes, joinedNodes, List.append_assoc]
  | _ => intro sort; cases sort

/-- What follows a program is a program if both of them are one. -/
theorem isProgram_of_append {first second : List Token} (isFirst : IsProgram first)
    (isBoth : IsProgram (first ++ second)) : IsProgram second := by
  rw [isProgram_iff] at isFirst isBoth ⊢
  rwa [Nesting.afterAll?_append, isFirst, Option.bind_some] at isBoth

namespace HasStatements

variable {first second : List Word} {statements others : List Node}

/-- Tokens of such words are a program with such statements. -/
theorem exists_program (has : HasStatements first statements) {tokens : List Token}
    (areWords : tokens.map Token.word = first) :
    ∃ program : Derivation .program, program.tokens = tokens ∧
      program.nodes.map Node.unplaced = statements := by
  obtain ⟨program, rfl, rfl⟩ := has
  have shown : tokens.map (Token.shown id) = program.tokens.map (Token.shown id) := by
    have kinds := congrArg (List.map fun word : Word => (word.kind.merged, word.value)) areWords
    rwa [List.map_map, List.map_map] at kinds
  obtain ⟨other, derives, sameNodes⟩ := program.exists_alike shown
  rw [Node.viewedAll_id, Node.viewedAll_id, Node.unplacedAll_eq_map,
    Node.unplacedAll_eq_map] at sameNodes
  exact ⟨other, derives, sameNodes⟩

/-- Words are a program with some statements, followed by one with others, exactly if they
are both together. -/
theorem append_iff (has : HasStatements first statements) :
    HasStatements (first ++ second) others ↔
      ∃ behind, HasStatements second behind ∧ others = statements ++ behind := by
  constructor
  · rintro ⟨program, areWords, rfl⟩
    obtain ⟨left, right, split, isLeft, isRight⟩ := List.map_eq_append_iff.mp areWords
    obtain ⟨before, rfl, rfl⟩ := has.exists_program isLeft
    obtain ⟨behind, rfl⟩ := isProgram_of_append ⟨before, rfl⟩ ⟨program, split⟩
    obtain ⟨joined, joinedTokens, joinedNodes⟩ := before.exists_append behind
    obtain rfl := Derivation.eq_of_tokens (joinedTokens.trans split.symm)
    refine ⟨_, ⟨behind, isRight, rfl⟩, ?_⟩
    rw [joinedNodes, List.map_append]
  · rintro ⟨behind, ⟨second, rfl, rfl⟩, rfl⟩
    obtain ⟨first, rfl, rfl⟩ := has
    obtain ⟨joined, joinedTokens, joinedNodes⟩ := first.exists_append second
    exact ⟨joined, by rw [joinedTokens, List.map_append], by rw [joinedNodes, List.map_append]⟩

/-- The end of a line in front of a program is a blank statement, which leaves no node. -/
theorem lineEnd_iff : HasStatements (.lineEnd :: second) others ↔ HasStatements second others := by
  have blank : HasStatements [.lineEnd] [] :=
    ⟨.program (.blankStatement (.blank (Nesting.bareToken (.terminator .newline)) rfl))
      .emptyProgram, rfl, rfl⟩
  rw [← List.singleton_append, blank.append_iff]
  simp

end HasStatements

/-- A text has a tree with some statements exactly if its words are a program with them. -/
theorem hasStatements_words_iff {source : String} {statements : List Node} :
    HasStatements (words source.toList) statements ↔
      ∃ tree, parse source = .ok tree ∧ tree.statements.map Node.unplaced = statements := by
  constructor
  · intro has
    obtain ⟨program, derives, isStatements⟩ :=
      has.exists_program (Cursor.ofString source).map_word_significant
    have parsed := TokenStream.parse_tokens program
      (Cursor.ofString source).significant.finalSpan areEnds_nil
    rw [List.append_nil, derives] at parsed
    exact ⟨_, parsed, by rw [program.statements_tree, isStatements]⟩
  · rintro ⟨tree, parsed, rfl⟩
    obtain ⟨program, derives, rfl⟩ := exists_derivation_of_parse parsed
    refine ⟨program, ?_, by rw [program.statements_tree]⟩
    rw [← derives]
    exact (Cursor.ofString source).map_word_significant

/-- Words run into others if they stand before them, or take over the end of a line that the
others start with. -/
inductive RunsInto (first second : List Word) : List Word → Prop where
  | apart : RunsInto first second (first ++ second)
  | overLineEnd (others : List Word) (starts : second = .lineEnd :: others) :
      RunsInto first second (first ++ others)

namespace RunsInto

variable {first second joined : List Word}

/-- Further words in front stay what they are. -/
theorem append_left (runs : RunsInto first second joined) (front : List Word) :
    RunsInto (front ++ first) second (front ++ joined) := by
  cases runs with
  | apart =>
      rw [← List.append_assoc]
      exact .apart
  | overLineEnd others starts =>
      rw [← List.append_assoc]
      exact .overLineEnd others starts

/-- Behind a program it makes no difference how words run into others. -/
theorem hasStatements_iff {statements others : List Node} (runs : RunsInto first second joined)
    (has : HasStatements first statements) :
    HasStatements joined others ↔
      ∃ behind, HasStatements second behind ∧ others = statements ++ behind := by
  cases runs with
  | apart => exact has.append_iff
  | overLineEnd words starts =>
      subst starts
      simp only [has.append_iff, HasStatements.lineEnd_iff]

end RunsInto

/-- A line break goes on with a line feed at most. -/
theorem lineBreakLength_append {front : List Char} (nonempty : front ≠ [])
    (whole : lineBreakLength front = front.length) (text : List Char) :
    lineBreakLength (front ++ text) = front.length ∨
      ∃ others, text = '\n' :: others ∧ lineBreakLength (front ++ text) = front.length + 1 := by
  obtain ⟨c, front, rfl⟩ := List.exists_cons_of_ne_nil nonempty
  cases front with
  | cons d front =>
      refine .inl (Eq.trans ?_ whole)
      simp only [List.cons_append, lineBreakLength_cons, List.head?_cons]
      rfl
  | nil =>
      rw [lineBreakLength_cons] at whole
      rw [List.singleton_append, lineBreakLength_cons]
      split
      · exact .inl rfl
      rename_i noLineFeed
      rw [if_neg noLineFeed] at whole
      split
      · cases text with
        | nil => exact .inl rfl
        | cons d others =>
            by_cases lineFeed : d = '\n'
            · exact .inr ⟨others, by rw [lineFeed], by simp [lineFeed]⟩
            · exact .inl (if_neg (by simpa using lineFeed))
      · rename_i noBreak
        rw [if_neg noBreak] at whole
        cases whole

/-- Behind a line break only a line feed is taken over. -/
theorem runsInto_lineBreak {front : List Char} (nonempty : front ≠ [])
    (whole : lineBreakLength front = front.length) (text : List Char) :
    lineBreakLength (front ++ text) ≠ 0 ∧
      RunsInto [] (words text)
        (words ((front ++ text).drop (lineBreakLength (front ++ text)))) := by
  have positive := List.length_pos_iff.mpr nonempty
  rcases lineBreakLength_append nonempty whole text with sameLength | ⟨others, rfl, longer⟩
  · rw [sameLength, List.drop_left]
    exact ⟨positive.ne', .apart⟩
  · rw [longer, ← List.drop_drop, List.drop_left]
    exact ⟨Nat.succ_ne_zero _, .overLineEnd _ (words_lineFeed others)⟩

section

variable {c : Char} {others : List Char}

/-- Behind a token of a single character nothing is taken over. -/
theorem runsInto_single {kind : Kind} (lead : ∀ next, Lead.of c next = .single kind)
    (kept : kind ∉ ignoredKinds) (length : (Lexeme.read c others).length = others.length + 1)
    (text : List Char) :
    RunsInto (keptWords [Lexeme.read c others]) (words text) (words (c :: others ++ text)) := by
  have isRead : Lexeme.read c others = .plain kind 1 := by rw [Lexeme.read, lead]
  rw [isRead] at length ⊢
  obtain rfl : others = [] := List.length_eq_zero_iff.mp (Nat.succ.inj length).symm
  rw [keptWords_of_kept kept, (single_readsAs lead kept text).words_append]
  exact .apart

/-- Behind white space nothing is taken over. -/
theorem runsInto_whitespace (isKind : (Lexeme.read c others).kind = .trivia .whitespace)
    (length : (Lexeme.read c others).length = others.length + 1) (text : List Char) :
    RunsInto (keptWords [Lexeme.read c others]) (words text) (words (c :: others ++ text)) := by
  have blanks := Lexeme.isBlank_of_read c others [] (by rwa [List.append_nil])
    (by rwa [List.append_nil])
  rw [keptWords_of_ignored (by simp [isKind, ignoredKinds]), words_blanks blanks]
  exact .apart

/-- Behind the end of a line only a line feed is taken over. -/
theorem runsInto_newline (starts : isLineEnd c = true)
    (length : (Lexeme.read c others).length = others.length + 1) (text : List Char) :
    RunsInto (keptWords [Lexeme.read c others]) (words text) (words (c :: others ++ text)) := by
  rw [Lexeme.read_lineBreak starts] at length ⊢
  obtain ⟨breaks, runs⟩ := runsInto_lineBreak (List.cons_ne_nil c others) length text
  rw [keptWords_of_kept (by simp [Lexeme.plain, ignoredKinds]), words_lineBreak breaks]
  exact runs.append_left [.lineEnd]

/-- Behind a line that is joined with the next one only a line feed is taken over. -/
theorem runsInto_escapedNewline
    (isKind : (Lexeme.read '\\' others).kind = .trivia .escapedNewline)
    (length : (Lexeme.read '\\' others).length = others.length + 1) (text : List Char) :
    RunsInto (keptWords [Lexeme.read '\\' others]) (words text)
      (words ('\\' :: others ++ text)) := by
  rw [keptWords_of_ignored (by simp [isKind, ignoredKinds]), List.cons_append]
  have isRead : Lexeme.read '\\' others = Lexeme.readContinuation others := rfl
  rw [isRead, Lexeme.readContinuation] at isKind length
  split at isKind
  · cases isKind
  · rename_i width isWidth
    simp only [isWidth, Lexeme.plain] at length
    have nonempty : others ≠ [] := by
      rintro rfl
      cases isWidth
    obtain ⟨breaks, runs⟩ := runsInto_lineBreak nonempty (by omega) text
    rwa [words_continuation breaks]

end

/-- Behind a separator other than a comment only a line feed is taken over. -/
theorem runsInto_separator {front : List Char} {last : Lexeme} (spelled : Spelled front [last] [])
    (isSeparator : last.kind.isSeparator = true) (noComment : last.kind ≠ .comment)
    (text : List Char) : RunsInto (keptWords [last]) (words text) (words (front ++ text)) := by
  obtain ⟨c, others, rfl, rfl, length⟩ := spelled.exists_read
  rw [List.append_nil] at isSeparator noComment length ⊢
  have starts := Lexeme.startsWith_read c others
  generalize isKind : (Lexeme.read c others).kind = kind at isSeparator noComment starts
  match kind with
  | .trivia .whitespace => exact runsInto_whitespace isKind length text
  | .trivia .escapedNewline =>
      obtain rfl := beq_iff_eq.mp starts
      exact runsInto_escapedNewline isKind length text
  | .terminator .newline => exact runsInto_newline starts length text
  | .terminator .semicolon =>
      obtain rfl := beq_iff_eq.mp starts
      exact runsInto_single (fun _ => rfl) (by decide) length text
  | .closing delimiter =>
      obtain rfl := beq_iff_eq.mp starts
      cases delimiter <;> exact runsInto_single (fun _ => rfl) (by decide) length text

/-- The last token of a program is a terminator, a closing bracket or a comment. -/
theorem isSeparator_of_isProgram {tokens : List Token} {last : Token}
    (isProgram : IsProgram (tokens ++ [last])) : last.kind.isSeparator = true := by
  rw [isProgram_iff, Nesting.afterAll?_append, Option.bind_eq_some_iff] at isProgram
  obtain ⟨reached, -, ended⟩ := isProgram
  obtain ⟨next, passes, isTop⟩ := Nesting.exists_of_afterAll?_cons ended
  obtain rfl : next = .top := Option.some.inj isTop
  generalize last.kind = kind at passes
  cases passes <;> rfl

/-- The last word of a program is a terminator, a closing bracket or a comment. -/
theorem HasStatements.isSeparator {words : List Word} {last : Word} {statements : List Node}
    (has : HasStatements (words ++ [last]) statements) : last.kind.isSeparator = true := by
  obtain ⟨program, areWords, -⟩ := has
  obtain ⟨tokens, ends, split, -, isLast⟩ := List.map_eq_append_iff.mp areWords
  obtain ⟨token, rfl, rfl⟩ := List.map_eq_singleton_iff.mp isLast
  exact isSeparator_of_isProgram ⟨program, split⟩

/-- No token of a text that has a tree is malformed. -/
theorem isFail_of_parse {source : String} {tree : Node} (parsed : parse source = .ok tree)
    {token : Token} (member : token ∈ (Cursor.ofString source).tokens) : token.isFail = false := by
  rw [← Bool.not_eq_true]
  intro malformed
  have seen := List.mem_filter.mpr ⟨member, Token.isSeen_of_isFail malformed⟩
  rw [Cursor.filter_tokens] at seen
  rcases List.mem_append.mp seen with isToken | isEnd
  · obtain ⟨program, derives, -⟩ := exists_derivation_of_parse parsed
    rw [derives] at isToken
    exact (program.areClean token isToken).2 (beq_iff_eq.mp malformed)
  · rw [List.mem_singleton.mp isEnd] at malformed
    cases malformed

/-- A text does not end with a comment: the last token before the end of input, if there is
one, is none. -/
def EndsOutsideComment (source : String) : Prop :=
  ∀ last ∈ (Cursor.ofString source).tokens.dropLast.getLast?, last.kind ≠ .comment

/-- A text that has a tree is spelled by lexemes of which none is malformed. -/
theorem exists_spelled_of_parse {source : String} {tree : Node} (parsed : parse source = .ok tree) :
    ∃ lexemes, Spelled source.toList lexemes [] ∧
      lexemes.map Lexeme.word = (Cursor.ofString source).tokens.dropLast.map Token.word ∧
      ∀ lexeme ∈ lexemes, lexeme.kind ≠ .fail := by
  obtain ⟨lexemes, spelled, sameWords⟩ := Cursor.exists_spelled_all source.toList
  rw [← Cursor.ofString_eq] at sameWords
  refine ⟨lexemes, spelled, sameWords, fun lexeme member => ?_⟩
  obtain ⟨token, member, sameKind⟩ := exists_token_of_mem sameWords member
  rw [← sameKind]
  exact beq_eq_false_iff_ne.mp (isFail_of_parse parsed (List.mem_of_mem_dropLast member))

/-- A text that has a tree and does not end with a comment runs into another one over a line
break at most. -/
theorem words_append_of_parse {first : String} {tree : Node} (parsed : parse first = .ok tree)
    (outside : EndsOutsideComment first) (second : List Char) :
    RunsInto (words first.toList) (words second) (words (first.toList ++ second)) := by
  obtain ⟨lexemes, spelled, sameWords, sound⟩ := exists_spelled_of_parse parsed
  rcases List.eq_nil_or_concat lexemes with rfl | ⟨earlier, last, rfl⟩
  · rw [spelled.eq_nil, words_nil]
    exact .apart
  rw [List.concat_eq_append] at spelled sameWords sound
  have isLast : last ∈ (earlier ++ [last]).getLast? := List.getLast?_concat ..
  obtain ⟨left, right, isFirst, before, behind⟩ := spelled.exists_split
  have isWhole : words first.toList = keptWords earlier ++ keptWords [last] := by
    have whole := before.words_append
    rwa [behind.words_append, words_nil, List.append_nil, List.append_nil, ← isFirst] at whole
  have isSeparator : last.kind.isSeparator = true := by
    by_cases ignored : last.kind ∈ ignoredKinds
    · exact Kind.isSeparator_of_ignored ignored
    · have has := hasStatements_words_iff.mpr ⟨tree, parsed, rfl⟩
      rw [isWhole, keptWords_of_kept ignored] at has
      exact has.isSeparator
  have isNoComment : last.kind ≠ .comment := by
    obtain ⟨token, isLastToken, sameKind⟩ := exists_token_of_getLast? sameWords isLast
    rw [← sameKind]
    exact outside token isLastToken
  have apart := before.congr_behind behind isSeparator
    (fun lexeme member => sound lexeme (List.mem_append_left _ member)) second
  rw [isWhole, isFirst, List.append_assoc, apart.words_append]
  exact (runsInto_separator behind isSeparator isNoComment second).append_left _

/-- The statements of a text behind another one follow those of the other one. -/
theorem hasStatements_append_iff {first second : String} {tree : Node} {statements : List Node}
    (parsed : parse first = .ok tree) (outside : EndsOutsideComment first) :
    HasStatements (words (first ++ second).toList) statements ↔
      ∃ behind, HasStatements (words second.toList) behind ∧
        statements = tree.statements.map Node.unplaced ++ behind := by
  rw [String.toList_append]
  exact (words_append_of_parse parsed outside second.toList).hasStatements_iff
    (hasStatements_words_iff.mpr ⟨tree, parsed, rfl⟩)

/-- A text that is a single statement, apart from places. -/
def IsStatementText (text : String) (statement : Node) : Prop :=
  ∃ tree, parse text = .ok tree ∧ tree.statements.map Node.unplaced = [statement]

/-- Texts of single statements are together a text of all of these statements. -/
theorem hasStatements_join {texts : List String} {statements : List Node}
    (areStatements : List.Forall₂ IsStatementText texts statements)
    (outside : ∀ text ∈ texts.dropLast, EndsOutsideComment text) :
    HasStatements (words (String.join texts).toList) statements := by
  induction areStatements with
  | nil => exact ⟨.emptyProgram, words_nil.symm, rfl⟩
  | @cons text statement texts statements isStatement areOthers inductionHypothesis =>
      obtain ⟨tree, parsed, isSingle⟩ := isStatement
      rw [String.join_cons]
      cases areOthers with
      | nil =>
          -- a comment at the end of the last text runs into nothing
          rw [String.join_nil, String.append_empty]
          exact hasStatements_words_iff.mpr ⟨tree, parsed, isSingle⟩
      | cons isNext areOthers =>
          rw [hasStatements_append_iff parsed (outside text List.mem_cons_self), isSingle]
          exact ⟨_, inductionHypothesis fun text member =>
            outside text (List.mem_cons_of_mem _ member), rfl⟩

/-- Programs compose by concatenation. Behind a text that has a tree and does not end with a
comment, a second text can be parsed exactly if it can be parsed alone, and the statements of
both texts together are those of the first one and then those of the second one. So any
number of texts of single statements, of which at most the last one ends with a comment, give
these statements in their order. -/
theorem parse_append :
    (∀ (first second : String) (tree : Node), parse first = .ok tree → EndsOutsideComment first →
      ((∃ joined, parse (first ++ second) = .ok joined) ↔ ∃ other, parse second = .ok other) ∧
        ∀ joined other, parse (first ++ second) = .ok joined → parse second = .ok other →
          joined.statements.map Node.unplaced =
            tree.statements.map Node.unplaced ++ other.statements.map Node.unplaced) ∧
      ∀ (texts : List String) (statements : List Node),
        List.Forall₂ IsStatementText texts statements →
        (∀ text ∈ texts.dropLast, EndsOutsideComment text) →
        ∃ joined, parse (String.join texts) = .ok joined ∧
          joined.statements.map Node.unplaced = statements := by
  constructor
  · intro first second tree parsed outside
    have both : ∀ statements, (∃ joined, parse (first ++ second) = .ok joined ∧
        joined.statements.map Node.unplaced = statements) ↔
          ∃ behind, (∃ other, parse second = .ok other ∧
              other.statements.map Node.unplaced = behind) ∧
            statements = tree.statements.map Node.unplaced ++ behind := fun statements => by
      simp only [← hasStatements_words_iff]
      exact hasStatements_append_iff parsed outside
    refine ⟨⟨?_, ?_⟩, ?_⟩
    · rintro ⟨joined, joinedParsed⟩
      obtain ⟨behind, ⟨other, otherParsed, -⟩, -⟩ := (both _).mp ⟨joined, joinedParsed, rfl⟩
      exact ⟨other, otherParsed⟩
    · rintro ⟨other, otherParsed⟩
      obtain ⟨joined, joinedParsed, -⟩ := (both _).mpr ⟨_, ⟨other, otherParsed, rfl⟩, rfl⟩
      exact ⟨joined, joinedParsed⟩
    · intro joined other joinedParsed otherParsed
      obtain ⟨behind, ⟨same, sameParsed, rfl⟩, isStatements⟩ :=
        (both _).mp ⟨joined, joinedParsed, rfl⟩
      obtain rfl : same = other := Except.ok.inj (sameParsed.symm.trans otherParsed)
      exact isStatements
  · intro texts statements areStatements outside
    exact hasStatements_words_iff.mp (hasStatements_join areStatements outside)

/-- Two lines with a carriage return before the seam and a line feed behind it. -/
theorem parse_append_within_line_break :
    ∃ first second, IsStatementText "a\r" first ∧ IsStatementText "\nb\n" second ∧
      EndsOutsideComment "a\r" ∧
      ((∃ joined, parse ("a\r" ++ "\nb\n") = .ok joined) ↔ ∃ other, parse "\nb\n" = .ok other) ∧
      ∃ joined, parse (String.join ["a\r", "\nb\n"]) = .ok joined ∧
        joined.statements.map Node.unplaced = [first, second] := by
  obtain ⟨first, isFirst⟩ : ∃ first, IsStatementText "a\r" first :=
    ⟨_, _, by cbv, rfl⟩
  obtain ⟨second, isSecond⟩ : ∃ second, IsStatementText "\nb\n" second :=
    ⟨_, _, by cbv, rfl⟩
  have symbol : "a\r".toList.drop 0 = 'a' :: ['\r'] := rfl
  have lineEnd : "a\r".toList.drop 1 = '\r' :: [] := rfl
  have stream : (Cursor.ofString "a\r").tokens = _ :: _ :: [endToken "a\r".toList] :=
    (Cursor.tokens_ofOffset symbol).trans (congrArg _ ((Cursor.tokens_ofOffset lineEnd).trans
      (congrArg _ (Cursor.tokens_end "a\r".toList))))
  have outside : EndsOutsideComment "a\r" := by
    rw [EndsOutsideComment, stream]
    rintro _ ⟨rfl⟩
    decide
  obtain ⟨tree, parsed⟩ : ∃ tree, parse "a\r" = .ok tree :=
    Exists.imp (fun _ => And.left) isFirst
  refine ⟨first, second, isFirst, isSecond, outside, (parse_append.1 _ _ tree parsed outside).1,
    parse_append.2 _ _ (.cons isFirst (.cons isSecond .nil)) ?_⟩
  simpa using outside

end BlockData
