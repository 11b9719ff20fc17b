import BlockData.Proofs.Parsing.Reading

/-!
# Outcomes of parsing

What parsing a stream of tokens gives, whatever the tokens are: the tree of a
derivation that reaches up to the end of input, or the error of the first token
that may not stand where it does. The token behind the end of input is looked at
as well, so a malformed one there is an error too.
-/

namespace BlockData

/-- A derivation reaches from the start of a stream up to the end of input, and
`after` is what the stream has from there on. -/
structure ReachesEnd (tokens : List Token) (finalSpan : Span) (program : Derivation .program)
    (after : List Token) : Prop where
  split : tokens = program.tokens ++ after
  atEnd : (after.headD (.atEnd finalSpan)).kind = .eof

/-- What parsing a stream may give. -/
def IsOutcome (tokens : List Token) (finalSpan : Span) : Except ParseError Node → Prop
  | .ok tree => ∃ program after, ReachesEnd tokens finalSpan program after ∧
      (after.tail.headD (.atEnd finalSpan)).isFail = false ∧
      tree = program.tree (after.headD (.atEnd finalSpan)).span
  | .error error => FailsWithin .top tokens finalSpan error ∨
      ∃ program after, ReachesEnd tokens finalSpan program after ∧
        (after.tail.headD (.atEnd finalSpan)).isFail = true ∧
        error = .lexical (.ofToken (after.tail.headD (.atEnd finalSpan)))

namespace Parsing

/-- Passing the end of input behind a program. -/
theorem finish_outcome {state : State} {program : Derivation .program} {after : State}
    (consumed : Consumes state program.tokens after) (ends : after.ahead.endsProgram = true)
    {tree : Node} (isTree : tree = program.tree after.lookahead.span) :
    IsOutcome state.pending state.finalSpan (finish after >>= fun _ => .ok tree) := by
  have ahead : after.lookahead = after.pending.headD (.atEnd state.finalSpan) := by
    rw [State.lookahead, consumed.finalSpan]
  by_cases atEnd : after.ahead = .eof
  · have reaches : ReachesEnd state.pending state.finalSpan program after.pending :=
      ⟨consumed.pending, by rw [← ahead]; exact atEnd⟩
    simp only [finish, atEnd, if_true, State.lexicalError?, State.lookahead, consumed.finalSpan]
    by_cases malformed : (after.pending.tail.headD (.atEnd state.finalSpan)).isFail = true
    · rw [if_pos malformed]
      exact .inr ⟨program, after.pending, reaches, malformed, rfl⟩
    · rw [if_neg malformed]
      exact ⟨program, after.pending, reaches, by simpa using malformed, by rw [isTree, ahead]⟩
  · have passed := program.afterAll?_tokens false rfl []
    have refused : Reads after .top (.error (after.refuse (.oneOf [.eof])))
        fun _ : Unit => False := by
      refine reads_refuse consumed.sound ?_ ?_
      · generalize after.ahead = ahead at ends atEnd ⊢
        cases ahead with
        | closing => rfl
        | eof => exact absurd rfl atEnd
        | _ => cases ends
      · simp [Nesting.wanted, ends, Nesting.top, Nesting.openBlocks]
    simp only [finish, atEnd, if_false]
    exact .inl (Reads.earlier consumed.pending consumed.finalSpan passed refused)

/-- Reading a whole stream has one of the outcomes. -/
theorem root_outcome {state : State} (stands : Stands state .top) :
    IsOutcome state.pending state.finalSpan (root state) := by
  have reads : Reads state ⟨false, []⟩ (Parsing.program state) _ :=
    program_reads (statements_and_parameters_read state).1 stands
  rw [root]
  cases result : Parsing.program state with
  | error error =>
      rw [result] at reads
      exact .inl reads
  | ok reached =>
      rw [result] at reads
      obtain ⟨program, node, consumed, ends⟩ := reads
      refine finish_outcome consumed ends ?_
      rw [node, consumed.lookahead, Derivation.tree]
      cases program.tokens <;> rfl

end Parsing

/-- Parsing has one of the outcomes, for every stream of tokens. -/
theorem TokenStream.parse_outcome (stream : TokenStream) :
    IsOutcome stream.tokens stream.finalSpan stream.parse := by
  let state : Parsing.State := ⟨stream.tokens, stream.finalSpan, []⟩
  rw [TokenStream.parse, Parsing.State.start]
  simp only [Parsing.State.lexicalError?]
  by_cases malformed : state.lookahead.isFail = true
  · rw [if_pos malformed]
    exact .inl ⟨[], stream.tokens, .top, rfl, rfl, if_pos malformed⟩
  · rw [if_neg malformed]
    have stands : Parsing.Stands state .top := ⟨rfl, by simpa using malformed⟩
    exact Parsing.root_outcome stands

end BlockData
