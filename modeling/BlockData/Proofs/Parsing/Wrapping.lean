import BlockData.Proofs.Parsing.Concatenation
import BlockData.Proofs.Parsing.ProgramTree
import Mathlib

/-!
# Programs in blocks

A program in brackets, on lines of its own, is a block of the same statements. The line feed
in front of the closing bracket ends whatever the program ends with, be it a comment or half
of a line break, so the words of the program stay what they are
(`words_lineFeed_of_parse`); the line feeds add at most blank statements, which leave no node.
A block in brackets is a program again, so this can be done over and over.
-/

namespace BlockData

/-- A text in brackets, on lines of its own. -/
def wrap (delimiter : Delimiter) (source : String) : String :=
  String.ofList (delimiter.openChar :: '\n' :: (source.toList ++ ['\n', delimiter.closeChar]))

/-- A block of some statements, apart from places. -/
def Node.blockOf (delimiter : Delimiter) (statements : List Node) : Node :=
  .node (.block delimiter) none Span.origin statements

/-- A line feed behind a text that has a tree ends the last token of the text at the latest. -/
theorem words_lineFeed_of_parse {source : String} {tree : Node} (parsed : parse source = .ok tree)
    (others : List Char) :
    RunsInto (words source.toList) (.lineEnd :: words others)
      (words (source.toList ++ '\n' :: others)) := by
  by_cases outside : EndsOutsideComment source
  · rw [← words_lineFeed]
    exact words_append_of_parse parsed outside ('\n' :: others)
  · -- a comment ends in front of the line feed
    obtain ⟨lexemes, spelled, sameWords, sound⟩ := exists_spelled_of_parse parsed
    simp only [EndsOutsideComment, not_forall, not_not] at outside
    obtain ⟨token, isLast, isComment⟩ := outside
    have stops : ∀ last ∈ lexemes.getLast?,
        StartsOutside last.kind.joins ('\n' :: others) [] := by
      rintro last isLastLexeme _ ⟨rfl⟩
      obtain ⟨other, isLastToken, sameKind⟩ := exists_token_of_getLast? sameWords isLastLexeme
      obtain rfl : token = other := Option.some.inj (isLast.symm.trans isLastToken)
      rw [← sameKind, isComment]
      exact .inl rfl
    have separated : IsSeparated ('\n' :: others) := by
      rintro _ ⟨rfl⟩
      decide
    have isWhole := spelled.words_append
    rw [List.append_nil, words_nil, List.append_nil] at isWhole
    rw [(spelled.congr separated sound stops).words_append, ← isWhole, words_lineFeed]
    exact .apart

/-- Words that run into the end of a line are a program with the same statements together with
what they take of it. -/
theorem RunsInto.exists_before_lineEnd {first others joined : List Word} {statements : List Node}
    (runs : RunsInto first (.lineEnd :: others) joined) (has : HasStatements first statements) :
    ∃ inner, joined = inner ++ others ∧ HasStatements inner statements := by
  cases runs with
  | overLineEnd words starts =>
      obtain rfl := (List.cons.inj starts).2
      exact ⟨first, rfl, has⟩
  | apart =>
      have blank : HasStatements [.lineEnd] [] :=
        HasStatements.lineEnd_iff.mpr ⟨.emptyProgram, rfl, rfl⟩
      refine ⟨first ++ [.lineEnd], ?_, has.append_iff.mpr ⟨[], blank, ?_⟩⟩
      · rw [List.append_assoc, List.singleton_append]
      · rw [List.append_nil]

/-- A program in brackets is a single statement: the block of its statements. -/
theorem HasStatements.block {inner : List Word} {statements : List Node} (delimiter : Delimiter)
    (has : HasStatements inner statements) :
    HasStatements (⟨.opening delimiter, none⟩ :: (inner ++ [⟨.closing delimiter, none⟩]))
      [Node.blockOf delimiter statements] := by
  obtain ⟨program, rfl, rfl⟩ := has
  let opened := Nesting.bareToken (.opening delimiter)
  let closed := Nesting.bareToken (.closing delimiter)
  let block := Derivation.block delimiter opened rfl program closed rfl
  refine ⟨.program (.blockStatement block) .emptyProgram, ?_, ?_⟩
  · simp [block, opened, closed, Derivation.tokens, Nesting.bareToken, Token.word]
  · simp [block, Derivation.nodes, Node.unplaced, Node.unplacedAll_eq_map, Node.blockOf]

/-- The words of a wrapped text are those of a block of the statements of the text. -/
theorem hasStatements_wrap {source : String} {tree : Node} (parsed : parse source = .ok tree)
    (delimiter : Delimiter) :
    HasStatements (words (wrap delimiter source).toList)
      [Node.blockOf delimiter (tree.statements.map Node.unplaced)] := by
  have runs := words_lineFeed_of_parse parsed [delimiter.closeChar]
  have closing := (closing_readsAs delimiter []).words_append
  have opening := (opening_readsAs delimiter
    ('\n' :: (source.toList ++ ['\n', delimiter.closeChar]))).words_append
  rw [List.append_nil, words_nil] at closing
  rw [closing] at runs
  obtain ⟨inner, isJoined, has⟩ :=
    runs.exists_before_lineEnd (hasStatements_words_iff.mpr ⟨tree, parsed, rfl⟩)
  rw [wrap, String.toList_ofList, ← List.singleton_append, opening, words_lineFeed, isJoined,
    ← List.cons_append]
  exact (HasStatements.lineEnd_iff.mpr has).block delimiter

/-- There is no program below the program of a text. -/
theorem kind_ne_program_of_parse {source : String} {tree : Node}
    (parsed : parse source = .ok tree) :
    ∀ node ∈ Node.subtreesAll tree.statements, node.kind ≠ .program := by
  obtain ⟨program, -, rfl⟩ := exists_derivation_of_parse parsed
  intro node member
  have inner := program.isInner (List.Subset.refl _) node member
  cases inner <;> nofun

/-- Wrapping a program makes a block of the same statements. A text that has a tree can be put
between any brackets, on lines of its own, and the result again, any number of times: what comes
out has a tree, and its statements are one block in the next, with the statements of the text
as the children of the innermost one, and no program in between. -/
theorem parse_wrap {source : String} {tree : Node} (parsed : parse source = .ok tree)
    (delimiters : List Delimiter) :
    ∃ wrapped, parse (delimiters.foldr wrap source) = .ok wrapped ∧
      wrapped.statements.map Node.unplaced =
        delimiters.foldr (fun delimiter statements => [Node.blockOf delimiter statements])
          (tree.statements.map Node.unplaced) ∧
      ∀ node ∈ Node.subtreesAll wrapped.statements, node.kind ≠ .program := by
  induction delimiters with
  | nil => exact ⟨tree, parsed, rfl, kind_ne_program_of_parse parsed⟩
  | cons delimiter others inductionHypothesis =>
      obtain ⟨inner, innerParsed, isInner, -⟩ := inductionHypothesis
      obtain ⟨wrapped, wrappedParsed, isBlock⟩ :=
        hasStatements_words_iff.mp (hasStatements_wrap innerParsed delimiter)
      refine ⟨wrapped, wrappedParsed, ?_, kind_ne_program_of_parse wrappedParsed⟩
      rw [isBlock, isInner, List.foldr_cons]

/-- A text that ends with a comment in two blocks. -/
theorem parse_wrap_comment :
    ∃ tree, parse "a (b\r)\n# c" = .ok tree ∧ tree.canonical 2 = .ok "a (\n  b\n)\n# c\n" ∧
      ∃ wrapped, parse ([.curly, .bracket].foldr wrap "a (b\r)\n# c") = .ok wrapped ∧
        wrapped.statements.map Node.unplaced =
          [.blockOf .curly [.blockOf .bracket (tree.statements.map Node.unplaced)]] ∧
        ∀ node ∈ Node.subtreesAll wrapped.statements, node.kind ≠ .program := by
  obtain ⟨tree, parsed, isText⟩ : ∃ tree, parse "a (b\r)\n# c" = .ok tree ∧
      tree.canonical 2 = .ok "a (\n  b\n)\n# c\n" := exists_parse_of_map (by cbv)
  exact ⟨tree, parsed, isText, parse_wrap parsed [.curly, .bracket]⟩

end BlockData
