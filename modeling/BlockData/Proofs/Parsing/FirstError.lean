import BlockData.Proofs.Grammar.Unfinished
import BlockData.Proofs.Parsing.Acceptance
import Mathlib

/-!
# The first error

A parser of clean tokens that fails reports the first token, or the end of input,
with which no accepted stream goes on, and what it reports is fixed by where that
token stands: `Report` lists the cases. All tokens before it can be continued,
since whatever waits for its end can be finished.
-/

namespace BlockData

/-- Whether some accepted stream starts with tokens. -/
def StartsAccepted (tokens : List Token) : Prop :=
  ∃ further finalSpan tree, TokenStream.parse ⟨tokens ++ further, finalSpan⟩ = .ok tree

/-- The blocks that tokens leave open, the innermost first, where some are open
before. -/
def leftOpen (openBlocks : List Delimiter) : List Token → List Delimiter
  | [] => openBlocks
  | token :: others =>
      match token.kind with
      | .opening delimiter => leftOpen (delimiter :: openBlocks) others
      | .closing _ => leftOpen openBlocks.tail others
      | _ => leftOpen openBlocks others

/-- The message and the expected kinds of an error, by where the refused token
stands and what kind it is of. -/
inductive Report : Nesting → Kind → String → List Kind → Prop where
  /-- The input ends in an expression outside of all blocks. -/
  | unfinishedExpression :
      Report ⟨true, []⟩ .eof "Unexpected end of file" [.terminator .newline, .terminator .semicolon]
  /-- The input ends in an expression within a block. -/
  | unfinishedBlock (innermost : Delimiter) (asParameter : Bool) (outer : List (Delimiter × Bool)) :
      Report ⟨true, (innermost, asParameter) :: outer⟩ .eof
        ("Unexpected end of file, unclosed " ++ (Kind.opening innermost).name ++ " (expected " ++
          (Kind.closing innermost).name ++ ")")
        [.terminator .newline, .terminator .semicolon, .closing innermost]
  /-- Some other token stands in an expression. -/
  | noParameter (enclosing : List (Delimiter × Bool)) (found : Kind) (notAtEnd : found ≠ .eof) :
      Report ⟨true, enclosing⟩ found "parameter expected" []
  /-- The input ends between the statements of a block. -/
  | unclosed (innermost : Delimiter) (asParameter : Bool) (outer : List (Delimiter × Bool)) :
      Report ⟨false, (innermost, asParameter) :: outer⟩ .eof
        ("Expected " ++ (Kind.closing innermost).name) [.closing innermost]
  /-- The closing bracket of another style stands between the statements of a block. -/
  | mismatched (innermost : Delimiter) (asParameter : Bool) (outer : List (Delimiter × Bool))
      (found : Delimiter) (other : found ≠ innermost) :
      Report ⟨false, (innermost, asParameter) :: outer⟩ (.closing found)
        ("Expected " ++ (Kind.closing innermost).name) [.closing innermost]
  /-- A closing bracket stands outside of all blocks. -/
  | unopened (found : Delimiter) : Report ⟨false, []⟩ (.closing found) "Expected eof" [.eof]
  /-- Trivia stand between statements. -/
  | noStatement (enclosing : List (Delimiter × Bool)) (found : Trivia) :
      Report ⟨false, enclosing⟩ (.trivia found) "could not parse statement" []

/-- The open blocks of a place are those that the tokens before it leave open. -/
theorem Nesting.openBlocks_eq_leftOpen {tokens : List Token} {nesting reached : Nesting}
    (walked : nesting.afterAll? tokens = some reached) :
    reached.openBlocks = leftOpen nesting.openBlocks tokens := by
  induction tokens generalizing nesting with
  | nil =>
      obtain rfl := Option.some.inj walked
      rfl
  | cons token others inductionHypothesis =>
      obtain ⟨next, passes, behind⟩ := Nesting.exists_of_afterAll?_cons walked
      rw [inductionHypothesis behind, leftOpen]
      generalize token.kind = kind at passes
      cases passes <;> rfl

/-- Tokens that may stand where they do can be continued to a program. -/
theorem isProgramPrefix_of_afterAll? {tokens : List Token} {reached : Nesting}
    (walked : Nesting.top.afterAll? tokens = some reached) : IsProgramPrefix tokens := by
  refine ⟨Nesting.ending reached.inExpression reached.enclosing, isProgram_iff.mpr ?_⟩
  rw [Nesting.afterAll?_append, walked, Option.bind_some]
  exact Nesting.afterAll?_ending reached.inExpression reached.enclosing

/-- Programs that go on with tokens are accepted streams that start with them. -/
theorem startsAccepted_of_afterAll? {tokens : List Token} {reached : Nesting}
    (walked : Nesting.top.afterAll? tokens = some reached) : StartsAccepted tokens := by
  obtain ⟨further, isProgram⟩ := isProgramPrefix_of_afterAll? walked
  obtain ⟨tree, accepted⟩ :=
    TokenStream.exists_parse_eq_ok ⟨0, 0, 1, 1⟩ (isProgram_iff.mp isProgram) areEnds_nil
  exact ⟨further, _, tree, by rwa [List.append_nil] at accepted⟩

/-- No accepted stream goes on with a token that may not come next. -/
theorem not_startsAccepted_of_not_admits {before : List Token} {found : Token} {reached : Nesting}
    (walked : Nesting.top.afterAll? before = some reached)
    (refused : reached.admits found.kind = false) : ¬StartsAccepted (before ++ [found]) := by
  rintro ⟨further, finalSpan, tree, accepted⟩
  have outcome := TokenStream.parse_outcome ⟨(before ++ [found]) ++ further, finalSpan⟩
  rw [accepted] at outcome
  obtain ⟨program, after, ⟨split, atEnd⟩, -, -⟩ := outcome
  have walkedAll := isProgram_iff.mp ⟨program, rfl⟩
  -- the program cannot end right before the token, which would be the end of input
  have notBefore : program.tokens = before → found.kind ≠ .eof := by
    rintro derives isEnd
    rw [derives, walked, Option.some.injEq] at walkedAll
    rw [walkedAll, isEnd] at refused
    cases refused
  rw [List.append_assoc, List.singleton_append] at split
  rcases List.append_eq_append_iff.mp split with ⟨others, whole, rest⟩ | ⟨others, whole, rest⟩
  · cases others with
    | nil =>
        rw [List.nil_append] at rest
        rw [← rest] at atEnd
        exact notBefore (by simpa using whole) atEnd
    | cons token more =>
        obtain ⟨rfl, -⟩ := List.cons.inj rest
        rw [whole, Nesting.afterAll?_append, walked, Option.bind_some, Nesting.afterAll?_cons,
          Option.bind_eq_some_iff] at walkedAll
        obtain ⟨next, stepped, -⟩ := walkedAll
        simp [Nesting.admits, stepped] at refused
  · cases others with
    | nil =>
        rw [rest] at atEnd
        exact notBefore (by simpa using whole.symm) atEnd
    | cons token more =>
        rw [rest] at atEnd
        exact absurd atEnd (areClean_of_afterAll? walked token (by simp [whole])).1

/-- What is reported of a token that may not come next. -/
theorem Nesting.report_of_not_admits {nesting : Nesting} {found : Kind}
    (refused : nesting.admits found = false) (sound : found ≠ .fail) :
    Report nesting found (nesting.wanted found).message (nesting.wanted found).expected := by
  obtain ⟨inExpression, enclosing⟩ := nesting
  cases inExpression with
  | true =>
      by_cases atEnd : found = .eof
      · subst atEnd
        cases enclosing with
        | nil => exact .unfinishedExpression
        | cons block outer => exact .unfinishedBlock block.1 block.2 outer
      · have isParameter : wanted ⟨true, enclosing⟩ found = .parameter := by simp [wanted, atEnd]
        rw [isParameter]
        exact .noParameter enclosing found atEnd
  | false =>
      cases found with
      | value => cases refused
      | terminator => cases refused
      | opening => cases refused
      | comment => cases refused
      | fail => exact absurd rfl sound
      | trivia found => exact .noStatement enclosing found
      | eof =>
          cases enclosing with
          | nil => cases refused
          | cons block outer => exact .unclosed block.1 block.2 outer
      | closing found =>
          cases enclosing with
          | nil => exact .unopened found
          | cons block outer =>
              have other : found ≠ block.1 := by
                rintro rfl
                simp [admits, after?] at refused
              exact .mismatched block.1 block.2 outer found other

/-- An error of clean tokens is that of the first token, or the end of input, with
which no accepted stream goes on behind the tokens before it, and its report is the
one for the place of that token. -/
theorem TokenStream.parse_error_is_first {tokens ends : List Token} {finalSpan : Span}
    {error : ParseError} (clean : AreClean tokens) (atEnd : AreEnds ends)
    (rejected : TokenStream.parse ⟨tokens ++ ends, finalSpan⟩ = .error error) :
    ∃ before after nesting wanted,
      let found := (after ++ ends).headD (.atEnd finalSpan)
      tokens = before ++ after ∧ StartsAccepted before ∧ ¬StartsAccepted (before ++ [found]) ∧
        error = .unexpected found.kind wanted found.span.line found.span.column ∧
        Unfinished nesting before ∧ nesting.openBlocks = leftOpen [] before ∧
        Report nesting found.kind wanted.message wanted.expected := by
  obtain ⟨before, after, nesting, whole, walked, refused⟩ :=
    TokenStream.failsWithin_of_parse_eq_error clean atEnd rejected
  have sound : ((after ++ ends).headD (.atEnd finalSpan)).kind ≠ .fail := by
    cases after with
    | nil =>
        rw [List.nil_append, atEnd.headD_kind]
        decide
    | cons token others => exact (clean token (by simp [whole])).2
  have noFail : ((after ++ ends).headD (.atEnd finalSpan)).isFail = false := by
    simpa [Token.isFail] using sound
  simp only [Nesting.refusal?, noFail, Bool.false_eq_true, if_false,
    Option.ite_none_left_eq_some, Bool.not_eq_true, Option.some.injEq] at refused
  exact ⟨before, after, nesting, _, whole, startsAccepted_of_afterAll? walked,
    not_startsAccepted_of_not_admits walked refused.1, refused.2.symm,
    unfinished_iff.mpr walked, Nesting.openBlocks_eq_leftOpen walked,
    Nesting.report_of_not_admits refused.1 sound⟩

/-- The end of input in an expression within a block is the first error. -/
theorem TokenStream.parse_error_in_block_is_first :
    let tokens := [Nesting.bareToken (.opening .paren), Nesting.bareToken (.value .symbol)]
    let error := ParseError.unexpected .eof (.restOfExpression (some .paren)) 1 1
    AreClean tokens ∧ AreEnds [] ∧
      TokenStream.parse ⟨tokens ++ [], ⟨0, 0, 1, 1⟩⟩ = .error error ∧
      ∃ before after nesting wanted,
        let found := (after ++ []).headD (.atEnd ⟨0, 0, 1, 1⟩)
        tokens = before ++ after ∧ StartsAccepted before ∧ ¬StartsAccepted (before ++ [found]) ∧
          error = .unexpected found.kind wanted found.span.line found.span.column ∧
          Unfinished nesting before ∧ nesting.openBlocks = leftOpen [] before ∧
          Report nesting found.kind wanted.message wanted.expected := by
  intro tokens error
  have clean : AreClean tokens := by
    unfold AreClean
    decide
  have rejected : TokenStream.parse ⟨tokens ++ [], ⟨0, 0, 1, 1⟩⟩ = .error error := by
    cbv
  exact ⟨clean, areEnds_nil, rejected,
    TokenStream.parse_error_is_first clean areEnds_nil rejected⟩

end BlockData
