import BlockData.Proofs.Grammar.Unambiguous
import BlockData.Proofs.Parsing.Outcome

/-!
# Acceptance

The parser accepts the programs of the grammar and nothing else, and gives the tree
of the only derivation that a program has. The converse half needs no second
induction over the parser: a program may be walked through without a refusal, so
an error of the parser would contradict it.
-/

namespace BlockData

/-- Tokens of the kinds that the grammar is about, with trivia: no end of input and
nothing malformed. -/
def AreClean (tokens : List Token) : Prop :=
  ∀ token ∈ tokens, token.kind ≠ .eof ∧ token.kind ≠ .fail

/-- Tokens that say that there is no more input. -/
def AreEnds (tokens : List Token) : Prop :=
  ∀ token ∈ tokens, token.kind = .eof

/-- Nothing but the final end of input may stand behind tokens. -/
theorem areEnds_nil : AreEnds [] :=
  fun _ member => absurd member List.not_mem_nil

/-- Tokens that may stand where they do are clean. -/
theorem areClean_of_afterAll? {tokens : List Token} {nesting reached : Nesting}
    (walked : nesting.afterAll? tokens = some reached) : AreClean tokens := by
  induction tokens generalizing nesting with
  | nil => exact fun token member => absurd member List.not_mem_nil
  | cons token others inductionHypothesis =>
      obtain ⟨next, passes, behind⟩ := Nesting.exists_of_afterAll?_cons walked
      intro other member
      rcases List.mem_cons.mp member with rfl | member
      · constructor <;> intro kind <;> rw [kind] at passes <;> cases passes
      · exact inductionHypothesis behind other member

/-- The tokens of a derivation are clean. -/
theorem Derivation.areClean (program : Derivation .program) : AreClean program.tokens :=
  areClean_of_afterAll? (program.afterAll?_tokens false rfl [])

/-- Clean tokens before something, in a stream that ends behind some tokens, are
among these. -/
theorem AreClean.split {before after tokens ends : List Token} (clean : AreClean before)
    (atEnd : AreEnds ends) (same : tokens ++ ends = before ++ after) :
    ∃ others, tokens = before ++ others ∧ after = others ++ ends := by
  rcases List.append_eq_append_iff.mp same with ⟨others, whole, endsWhole⟩ | ⟨others, whole, rest⟩
  · cases others with
    | nil => exact ⟨[], by simpa using whole.symm, by simpa using endsWhole.symm⟩
    | cons token others =>
        -- a token of both would have to be an end of input and clean
        have isEnd : token.kind = .eof := atEnd token (by simp [endsWhole])
        have noEnd := clean token (by simp [whole])
        exact absurd isEnd noEnd.1
  · exact ⟨others, whole, rest⟩

/-- A derivation that reaches the end of a stream of clean tokens derives all of
them. -/
theorem ReachesEnd.tokens_eq {tokens ends : List Token} {finalSpan : Span}
    {program : Derivation .program} {after : List Token} (clean : AreClean tokens)
    (atEnd : AreEnds ends) (reaches : ReachesEnd (tokens ++ ends) finalSpan program after) :
    program.tokens = tokens ∧ after = ends := by
  obtain ⟨others, whole, rest⟩ := program.areClean.split atEnd reaches.split
  cases others with
  | nil => exact ⟨by simpa using whole.symm, rest⟩
  | cons token others =>
      have isEnd := reaches.atEnd
      have noEnd := clean token (by simp [whole])
      rw [rest] at isEnd
      exact absurd isEnd noEnd.1

/-- What accepting clean tokens means. -/
theorem TokenStream.exists_of_parse_eq_ok {tokens ends : List Token} {finalSpan : Span}
    {tree : Node} (clean : AreClean tokens) (atEnd : AreEnds ends)
    (accepted : TokenStream.parse ⟨tokens ++ ends, finalSpan⟩ = .ok tree) :
    ∃ program : Derivation .program, program.tokens = tokens ∧
      tree = program.tree (ends.headD (.atEnd finalSpan)).span := by
  have outcome := TokenStream.parse_outcome ⟨tokens ++ ends, finalSpan⟩
  rw [accepted] at outcome
  obtain ⟨program, after, reaches, -, isTree⟩ := outcome
  obtain ⟨derives, rfl⟩ := reaches.tokens_eq clean atEnd
  exact ⟨program, derives, isTree⟩

/-- What rejecting clean tokens means: one of them, or the end of input behind them,
is refused. -/
theorem TokenStream.failsWithin_of_parse_eq_error {tokens ends : List Token} {finalSpan : Span}
    {error : ParseError} (clean : AreClean tokens) (atEnd : AreEnds ends)
    (rejected : TokenStream.parse ⟨tokens ++ ends, finalSpan⟩ = .error error) :
    ∃ before after reached, tokens = before ++ after ∧
      Nesting.top.afterAll? before = some reached ∧
      reached.refusal? ((after ++ ends).headD (.atEnd finalSpan)) = some error := by
  have outcome := TokenStream.parse_outcome ⟨tokens ++ ends, finalSpan⟩
  rw [rejected] at outcome
  rcases outcome with ⟨before, rest, reached, split, walked, refused⟩ |
    ⟨program, after, reaches, malformed, -⟩
  · obtain ⟨after, whole, rfl⟩ := (areClean_of_afterAll? walked).split atEnd split
    exact ⟨before, after, reached, whole, walked, refused⟩
  · -- behind the end of input there are only ends of input
    obtain ⟨-, rfl⟩ := reaches.tokens_eq clean atEnd
    have isEnd : (after.tail.headD (.atEnd finalSpan)).kind = .eof := by
      cases rest : after.tail with
      | nil => rfl
      | cons token others =>
          exact atEnd token (List.mem_of_mem_tail (by rw [rest]; exact List.mem_cons_self))
    rw [Token.isFail, beq_iff_eq, isEnd] at malformed
    cases malformed

/-- The first token behind clean ones that end is an end of input. -/
theorem AreEnds.headD_kind {ends : List Token} (atEnd : AreEnds ends) (finalSpan : Span) :
    (ends.headD (.atEnd finalSpan)).kind = .eof := by
  cases ends with
  | nil => rfl
  | cons token others => exact atEnd token List.mem_cons_self

/-- A token that may come next is not refused. -/
theorem Nesting.refusal?_eq_none {nesting : Nesting} {token : Token}
    (admitted : nesting.admits token.kind = true) : nesting.refusal? token = none := by
  have sound : token.isFail = false := by
    rw [Token.isFail, beq_eq_false_iff_ne]
    intro isFail
    rw [isFail] at admitted
    simp [Nesting.admits, Nesting.after?] at admitted
  simp [Nesting.refusal?, sound, admitted]

/-- Tokens that lead from the start to where nothing waits are accepted. -/
theorem TokenStream.exists_parse_eq_ok {tokens ends : List Token} (finalSpan : Span)
    (walked : Nesting.top.afterAll? tokens = some .top) (atEnd : AreEnds ends) :
    ∃ tree, TokenStream.parse ⟨tokens ++ ends, finalSpan⟩ = .ok tree := by
  cases result : TokenStream.parse ⟨tokens ++ ends, finalSpan⟩ with
  | ok tree => exact ⟨tree, rfl⟩
  | error error =>
      obtain ⟨before, after, reached, rfl, walkedBefore, refused⟩ :=
        TokenStream.failsWithin_of_parse_eq_error (areClean_of_afterAll? walked) atEnd result
      rw [Nesting.afterAll?_append, walkedBefore, Option.bind_some] at walked
      have admitted : reached.admits ((after ++ ends).headD (.atEnd finalSpan)).kind = true := by
        cases after with
        | nil =>
            obtain rfl : reached = .top := Option.some.inj walked
            rw [List.nil_append, atEnd.headD_kind]
            rfl
        | cons token others =>
            rw [Nesting.afterAll?_cons, Option.bind_eq_some_iff] at walked
            obtain ⟨next, stepped, -⟩ := walked
            simp [Nesting.admits, stepped]
      rw [Nesting.refusal?_eq_none admitted] at refused
      cases refused

/-- The programs are the token lists that lead from the start to where nothing
waits. -/
theorem isProgram_iff {tokens : List Token} :
    IsProgram tokens ↔ Nesting.top.afterAll? tokens = some .top := by
  constructor
  · rintro ⟨program, rfl⟩
    exact program.afterAll?_tokens false rfl []
  · intro walked
    obtain ⟨tree, accepted⟩ :=
      TokenStream.exists_parse_eq_ok ⟨0, 0, 1, 1⟩ walked areEnds_nil
    obtain ⟨program, derives, -⟩ :=
      TokenStream.exists_of_parse_eq_ok (areClean_of_afterAll? walked) areEnds_nil accepted
    exact ⟨program, derives⟩

/-- The parser gives the tree of every derivation. -/
theorem TokenStream.parse_tokens (program : Derivation .program) {ends : List Token}
    (finalSpan : Span) (atEnd : AreEnds ends) :
    TokenStream.parse ⟨program.tokens ++ ends, finalSpan⟩ =
      .ok (program.tree (ends.headD (.atEnd finalSpan)).span) := by
  obtain ⟨tree, accepted⟩ :=
    TokenStream.exists_parse_eq_ok finalSpan (isProgram_iff.mp ⟨program, rfl⟩) atEnd
  obtain ⟨other, derives, isTree⟩ :=
    TokenStream.exists_of_parse_eq_ok program.areClean atEnd accepted
  rw [accepted, isTree, Derivation.eq_of_tokens derives]

/-- Of clean tokens with the end of input behind them the parser accepts exactly the
programs. A program has one derivation, and its tree is that of the derivation. -/
theorem TokenStream.parse_accepts_programs {tokens ends : List Token} (finalSpan : Span)
    (clean : AreClean tokens) (atEnd : AreEnds ends) :
    ((∃ tree, TokenStream.parse ⟨tokens ++ ends, finalSpan⟩ = .ok tree) ↔ IsProgram tokens) ∧
      ∀ program : Derivation .program, program.tokens = tokens →
        TokenStream.parse ⟨tokens ++ ends, finalSpan⟩ =
            .ok (program.tree (ends.headD (.atEnd finalSpan)).span) ∧
          ∀ other : Derivation .program, other.tokens = tokens → other = program := by
  constructor
  · constructor
    · rintro ⟨tree, accepted⟩
      obtain ⟨program, derives, -⟩ := TokenStream.exists_of_parse_eq_ok clean atEnd accepted
      exact ⟨program, derives⟩
    · rintro ⟨program, rfl⟩
      exact ⟨_, TokenStream.parse_tokens program finalSpan atEnd⟩
  · rintro program rfl
    exact ⟨TokenStream.parse_tokens program finalSpan atEnd, fun other derives =>
      Derivation.eq_of_tokens derives⟩

/-- An expression with a block is accepted with its only derivation. -/
theorem TokenStream.parse_accepts_block :
    let tokens := [Nesting.bareToken (.value .symbol), Nesting.bareToken (.opening .curly),
      Nesting.bareToken (.closing .curly), Nesting.bareToken (.terminator .newline)]
    AreClean tokens ∧ AreEnds [] ∧
      ((∃ tree, TokenStream.parse ⟨tokens ++ [], ⟨0, 0, 1, 1⟩⟩ = .ok tree) ↔ IsProgram tokens) ∧
      ∀ program : Derivation .program, program.tokens = tokens →
        TokenStream.parse ⟨tokens ++ [], ⟨0, 0, 1, 1⟩⟩ = .ok (program.tree ⟨0, 0, 1, 1⟩) ∧
          ∀ other : Derivation .program, other.tokens = tokens → other = program := by
  intro tokens
  have clean : AreClean tokens := by
    unfold AreClean
    decide
  exact ⟨clean, areEnds_nil, TokenStream.parse_accepts_programs ⟨0, 0, 1, 1⟩ clean areEnds_nil⟩

end BlockData
