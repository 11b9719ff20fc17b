import BlockData.Proofs.Parsing.Contract

/-!
# What the rules read

Every rule of the parser reads a derivation of its phrase: the tokens that it
consumes are those of the derivation, and its node is the one that the derivation
leaves. A rule that reads nothing stands before a token that cannot start its
phrase. The rules call each other with fewer tokens left, except for chains that
go down from statements to blocks, so the promises of `statements` and
`parameters` for shorter inputs carry all others.
-/

namespace BlockData.Parsing

/-- The promise of `statements` at a state. -/
def StatementsRead (state : State) : Prop :=
  ∀ enclosing, Stands state ⟨false, enclosing⟩ →
    Reads state ⟨false, enclosing⟩ (statements state) fun reached =>
      ∃ program : Derivation .program, reached.result = program.nodes ∧
        Consumes state program.tokens reached.state ∧ reached.state.ahead.endsProgram = true

/-- The promise of `parameters` at a state. -/
def ParametersRead (state : State) : Prop :=
  ∀ enclosing, Stands state ⟨true, enclosing⟩ →
    Reads state ⟨true, enclosing⟩ (parameters state) fun reached =>
      ∃ parameters : Derivation .paramlist, reached.result = parameters.nodes ∧
        Consumes state parameters.tokens reached.state ∧ reached.state.ahead.isTerminator = true

/-- The kinds that are wanted behind an expression are terminators. -/
theorem isTerminator_of_mem {kind : Kind} (listed : kind ∈ terminatorKinds) :
    kind.isTerminator = true := by
  simp only [terminatorKinds, List.mem_cons, List.not_mem_nil, or_false] at listed
  rcases listed with rfl | rfl <;> rfl

/-- All terminators are wanted behind an expression. -/
theorem mem_terminatorKinds {kind : Kind} (isTerminator : kind.isTerminator = true) :
    kind ∈ terminatorKinds := by
  cases kind with
  | terminator kind => cases kind <;> decide
  | _ => cases isTerminator

variable {state : State} {nesting : Nesting} {enclosing : List (Delimiter × Bool)}

/-- A value is one token, which leaves its leaf. -/
theorem value_reads : Reads state nesting (value state) fun
    | none => state.ahead.isValue = false
    | some taken => ∃ token : Token, token.kind.isValue = true ∧ taken.result = .ofToken token ∧
        Consumes state [token] taken.state := by
  refine Reads.bind (accept_reads _ rfl fun kind isValue => ?_) ?_
  · rw [Nesting.after?_of_isValue nesting isValue]
    rfl
  · rintro (_ | taken) accepted
    · exact accepted
    · exact ⟨taken.result, accepted.1, rfl, accepted.2⟩

/-- A terminator is one token. -/
theorem terminator_reads : Reads state nesting (terminator state) fun
    | none => state.ahead.isTerminator = false
    | some taken => ∃ token : Token, token.kind.isTerminator = true ∧
        Consumes state [token] taken.state := by
  refine Reads.bind (accept_reads _ rfl fun kind isTerminator => ?_) ?_
  · rw [Nesting.after?_of_isTerminator nesting isTerminator]
    rfl
  · rintro (_ | taken) accepted
    · exact accepted
    · exact ⟨taken.result, accepted.1, accepted.2⟩

/-- A comment is one token, which leaves its leaf. -/
theorem comment_reads : Reads state ⟨false, enclosing⟩ (comment state) fun
    | none => state.ahead ≠ .comment
    | some taken => ∃ token : Token, token.kind = .comment ∧ taken.result = .ofToken token ∧
        Consumes state [token] taken.state := by
  refine Reads.bind (accept_reads _ rfl fun kind isComment => ?_) ?_
  · rw [beq_iff_eq] at isComment
    rw [isComment]
    rfl
  · rintro (_ | taken) accepted
    · exact beq_eq_false_iff_ne.mp accepted
    · exact ⟨taken.result, beq_iff_eq.mp accepted.1, rfl, accepted.2⟩

/-- A blank statement is one terminator. -/
theorem blank_reads : Reads state ⟨false, enclosing⟩ (blank state) fun
    | none => state.ahead.isTerminator = false
    | some taken => ∃ blank : Derivation .blank, taken.result.kind = .blank ∧
        Consumes state blank.tokens taken.state := by
  refine Reads.bind terminator_reads ?_
  rintro (_ | taken) read
  · exact read
  · obtain ⟨token, isTerminator, consumed⟩ := read
    exact ⟨.blank token isTerminator, rfl, consumed⟩

/-- The statements under one node. -/
theorem program_reads (reads : StatementsRead state) (stands : Stands state ⟨false, enclosing⟩) :
    Reads state ⟨false, enclosing⟩ (program state) fun reached =>
      ∃ program : Derivation .program,
        reached.result = .node .program none state.lookahead.span program.nodes ∧
        Consumes state program.tokens reached.state ∧
        reached.state.ahead.endsProgram = true := by
  rw [program]
  refine Reads.bind (reads enclosing stands) ?_
  rintro reached ⟨program, result, consumed, ends⟩
  exact ⟨program, by rw [result], consumed, ends⟩

/-- The parameters under one node. -/
theorem paramlist_reads (reads : ParametersRead state) (stands : Stands state ⟨true, enclosing⟩) :
    Reads state ⟨true, enclosing⟩ (paramlist state) fun reached =>
      ∃ parameters : Derivation .paramlist,
        reached.result = .node .paramlist none state.lookahead.span parameters.nodes ∧
        Consumes state parameters.tokens reached.state ∧
        reached.state.ahead.isTerminator = true := by
  rw [paramlist]
  refine Reads.bind (reads enclosing stands) ?_
  rintro reached ⟨parameters, result, consumed, ends⟩
  exact ⟨parameters, by rw [result], consumed, ends⟩

/-- A block in one style is a block of the grammar, wherever it stands. -/
theorem blockIn_reads (delimiter : Delimiter)
    (shorter : ∀ inside : State, inside.pending.length < state.pending.length →
      StatementsRead inside)
    (stands : Stands state nesting) : Reads state nesting (blockIn delimiter state) fun
    | none => state.ahead ≠ .opening delimiter
    | some taken => ∃ block : Derivation .block, block.nodes = [taken.result] ∧
        taken.result.kind ≠ .blank ∧ Consumes state block.tokens taken.state := by
  rw [blockIn]
  refine Reads.bind (accept_reads _ rfl fun kind opens => ?_) ?_
  · rw [beq_iff_eq] at opens
    rw [opens]
    rfl
  rintro (_ | opened) accepted
  · exact beq_eq_false_iff_ne.mp accepted
  obtain ⟨opens, consumedOpening⟩ := accepted
  rw [beq_iff_eq] at opens
  -- the statements of the block, one level deeper
  let within : List (Delimiter × Bool) := (delimiter, nesting.inExpression) :: nesting.enclosing
  have entered : Nesting.afterAll? nesting [opened.result] = some ⟨false, within⟩ := by
    simp [opens, Nesting.after?, within]
  have standsInside : Stands (opened.state.enter delimiter) ⟨false, within⟩ :=
    ⟨by simp [State.enter, within, Nesting.openBlocks, consumedOpening.openBlocks,
        stands.openBlocks], consumedOpening.sound⟩
  have pendingBehind : state.pending =
      [opened.result] ++ (opened.state.enter delimiter).pending := consumedOpening.pending
  refine Reads.bind (Reads.earlier pendingBehind consumedOpening.finalSpan entered
    (program_reads (shorter _ opened.shorter) standsInside)) ?_
  rintro inner ⟨program, innerResult, consumedInner, ends⟩
  -- the closing bracket, in the state that has left the block
  have passed : Nesting.afterAll? nesting (opened.result :: program.tokens) =
      some ⟨false, within⟩ := by
    rw [← List.singleton_append, Nesting.afterAll?_append, entered, Option.bind_some,
      program.afterAll?_tokens false rfl]
  have pendingInside : state.pending =
      (opened.result :: program.tokens) ++ inner.state.leave.pending :=
    consumedOpening.pending.trans (congrArg (opened.result :: ·) consumedInner.pending)
  have finalSpan : inner.state.leave.finalSpan = state.finalSpan :=
    consumedInner.finalSpan.trans consumedOpening.finalSpan
  refine Reads.bind (Reads.earlier pendingInside finalSpan passed
    (expect_reads [.closing delimiter] consumedInner.sound (by simp) ?_ ?_)) ?_
  · rintro kind listed
    rw [List.mem_singleton.mp listed, Nesting.after?_closing]
    rfl
  · intro unlisted
    have ends : inner.state.leave.ahead.endsProgram = true := ends
    have other : inner.state.leave.ahead ≠ .closing delimiter := by simpa using unlisted
    generalize inner.state.leave.ahead = ahead at ends other ⊢
    cases ahead with
    | closing found =>
        have different : delimiter ≠ found := fun same => other (by rw [same])
        simp [Nesting.admits, Nesting.after?, Nesting.wanted, Nesting.openBlocks, within, different,
          Kind.endsProgram]
    | eof =>
        simp [Nesting.admits, Nesting.after?, Nesting.wanted, Nesting.openBlocks, within,
          Kind.endsProgram, Nesting.top]
    | _ => cases ends
  rintro closed ⟨closes, consumedClosing⟩
  have closes : closed.result.kind = .closing delimiter := List.mem_singleton.mp closes
  refine ⟨.block delimiter opened.result opens program closed.result closes, ?_, ?_, ?_, ?_, ?_, ?_⟩
  · simp [Derivation.nodes, blockNode, innerResult, Node.children]
  · simp [blockNode, Node.kind]
  · have whole := pendingInside.trans (congrArg (_ ++ ·) consumedClosing.pending)
    simpa [Derivation.tokens] using whole
  · exact consumedClosing.finalSpan.trans finalSpan
  · rw [consumedClosing.openBlocks]
    change inner.state.openBlocks.tail = state.openBlocks
    rw [consumedInner.openBlocks]
    exact consumedOpening.openBlocks
  · exact consumedClosing.sound

/-- A block in any style is a block of the grammar, wherever it stands. -/
theorem block_reads
    (shorter : ∀ inside : State, inside.pending.length < state.pending.length →
      StatementsRead inside)
    (stands : Stands state nesting) : Reads state nesting (block state) fun
    | none => ∀ delimiter, state.ahead ≠ .opening delimiter
    | some taken => ∃ block : Derivation .block, block.nodes = [taken.result] ∧
        taken.result.kind ≠ .blank ∧ Consumes state block.tokens taken.state := by
  rw [block]
  refine Reads.bind (blockIn_reads .curly shorter stands) ?_
  rintro (_ | taken) curly
  · refine Reads.bind (blockIn_reads .paren shorter stands) ?_
    rintro (_ | taken) paren
    · refine Reads.imp (blockIn_reads .bracket shorter stands) ?_
      rintro (_ | taken) bracket
      · intro delimiter
        cases delimiter with
        | curly => exact curly
        | paren => exact paren
        | bracket => exact bracket
      · exact bracket
    · exact paren
  · exact curly

/-- A parameter is one of the grammar, before a token that could not end the list
of parameters. -/
theorem parameter_reads
    (shorter : ∀ inside : State, inside.pending.length < state.pending.length →
      StatementsRead inside)
    (stands : Stands state ⟨true, enclosing⟩) (goesOn : state.ahead.isTerminator = false)
    (notAtEnd : state.ahead ≠ .eof) :
    Reads state ⟨true, enclosing⟩ (parameter state) fun taken =>
      ∃ parameter : Derivation .parameter, parameter.nodes = [taken.result] ∧
        Consumes state parameter.tokens taken.state := by
  rw [parameter]
  refine Reads.bind value_reads ?_
  rintro (_ | taken) noValue
  · refine Reads.bind (block_reads shorter stands) ?_
    rintro (_ | taken) noBlock
    · refine reads_refuse stands.sound ?_ (by simp [Nesting.wanted, notAtEnd])
      generalize state.ahead = ahead at goesOn notAtEnd noValue noBlock ⊢
      cases ahead with
      | value => cases noValue
      | terminator => cases goesOn
      | opening delimiter => exact absurd rfl (noBlock delimiter)
      | _ => rfl
    · obtain ⟨child, nodes, _, consumed⟩ := noBlock
      exact ⟨.blockParameter child, nodes, consumed⟩
  · obtain ⟨token, isValue, result, consumed⟩ := noValue
    exact ⟨.value token isValue, by rw [result]; rfl, consumed⟩

/-- A value with its parameters is an expression of the grammar. -/
theorem expression_reads
    (shorter : ∀ inside : State, inside.pending.length < state.pending.length →
      ParametersRead inside)
    (stands : Stands state ⟨false, enclosing⟩) :
    Reads state ⟨false, enclosing⟩ (expression state) fun
      | none => state.ahead.isValue = false
      | some taken => ∃ expression : Derivation .expression, expression.nodes = [taken.result] ∧
          taken.result.kind ≠ .blank ∧ Consumes state expression.tokens taken.state := by
  rw [expression]
  refine Reads.bind value_reads ?_
  rintro (_ | head) read
  · exact read
  obtain ⟨token, isValue, headResult, consumedHead⟩ := read
  have passedHead : Nesting.afterAll? ⟨false, enclosing⟩ [token] = some ⟨true, enclosing⟩ := by
    simp [Nesting.after?_of_isValue _ isValue]
  refine Reads.bind (Reads.earlier consumedHead.pending consumedHead.finalSpan passedHead
    (paramlist_reads (shorter _ head.shorter) (consumedHead.stands stands rfl))) ?_
  rintro params ⟨parameters, paramsResult, consumedParams, ends⟩
  have consumedBoth := consumedHead.trans consumedParams
  have passedBoth : Nesting.afterAll? ⟨false, enclosing⟩ ([token] ++ parameters.tokens) =
      some ⟨true, enclosing⟩ := by
    rw [Nesting.afterAll?_append, passedHead, Option.bind_some,
      parameters.afterAll?_tokens true rfl]
  refine Reads.bind (Reads.earlier consumedBoth.pending consumedBoth.finalSpan passedBoth
    (expect_reads terminatorKinds consumedParams.sound (by decide) ?_ ?_)) ?_
  · intro kind listed
    rw [Nesting.after?_of_isTerminator _ (isTerminator_of_mem listed)]
    rfl
  · intro unlisted
    exact absurd (mem_terminatorKinds ends) unlisted
  rintro ended ⟨terminates, consumedEnd⟩
  refine ⟨.expression token isValue parameters ended.result (isTerminator_of_mem terminates),
    ?_, by simp [Node.kind], ?_⟩
  · have ahead : head.state.lookahead = parameters.tokens.headD ended.result := by
      rw [consumedParams.lookahead, consumedEnd.lookahead]
      rfl
    simp [Derivation.nodes, headResult, paramsResult, ahead, Node.span, Node.ofToken]
  · simpa [Derivation.tokens] using consumedBoth.trans consumedEnd

/-- A statement is one of the grammar, before a token that could not end a program.
A blank one leaves no node. -/
theorem statement_reads
    (shorter : ∀ inside : State, inside.pending.length < state.pending.length →
      StatementsRead inside ∧ ParametersRead inside)
    (stands : Stands state ⟨false, enclosing⟩) (goesOn : state.ahead.endsProgram = false) :
    Reads state ⟨false, enclosing⟩ (statement state) fun taken =>
      ∃ statement : Derivation .statement,
        statement.nodes = (if taken.result.kind = .blank then [] else [taken.result]) ∧
        Consumes state statement.tokens taken.state := by
  rw [statement]
  refine Reads.bind
    (expression_reads (fun inside isInside => (shorter inside isInside).2) stands) ?_
  rintro (_ | taken) noExpression
  · refine Reads.bind (block_reads (fun inside isInside => (shorter inside isInside).1) stands) ?_
    rintro (_ | taken) noBlock
    · refine Reads.bind blank_reads ?_
      rintro (_ | taken) noBlank
      · refine Reads.bind comment_reads ?_
        rintro (_ | taken) noComment
        · refine reads_refuse stands.sound ?_ (by simp [Nesting.wanted, goesOn])
          generalize state.ahead = ahead at goesOn noExpression noBlock noBlank noComment ⊢
          cases ahead with
          | value => cases noExpression
          | terminator => cases noBlank
          | opening delimiter => exact absurd rfl (noBlock delimiter)
          | closing => cases goesOn
          | comment => exact absurd rfl noComment
          | eof => cases goesOn
          | _ => simp [Nesting.admits, Nesting.after?]
        · obtain ⟨token, isComment, result, consumed⟩ := noComment
          have nodes : (Derivation.comment token isComment).nodes =
              if taken.result.kind = .blank then [] else [taken.result] := by
            simp [result, Node.ofToken, Node.kind, Derivation.nodes]
          exact ⟨.comment token isComment, nodes, consumed⟩
      · obtain ⟨child, isBlank, consumed⟩ := noBlank
        exact ⟨.blankStatement child, by cases child; simp [isBlank, Derivation.nodes], consumed⟩
    · obtain ⟨child, nodes, notBlank, consumed⟩ := noBlock
      exact ⟨.blockStatement child, by simp [notBlank, Derivation.nodes, nodes], consumed⟩
  · obtain ⟨child, nodes, notBlank, consumed⟩ := noExpression
    exact ⟨.expressionStatement child, by simp [notBlank, Derivation.nodes, nodes], consumed⟩

/-- One parameter after the other. -/
theorem parametersRead_of_shorter
    (shorter : ∀ inside : State, inside.pending.length < state.pending.length →
      StatementsRead inside ∧ ParametersRead inside) : ParametersRead state := by
  intro enclosing stands
  rw [parameters]
  split
  · rename_i ends
    exact ⟨.emptyParamlist, rfl, .refl stands.sound, ends⟩
  · rename_i goesOn
    rw [Bool.not_eq_true] at goesOn
    split
    · rename_i atEnd
      refine reads_refuse stands.sound ?_ ?_
      · rw [atEnd]
        rfl
      · simp [Nesting.wanted, atEnd, stands.openBlocks, Nesting.openBlocks]
    · rename_i notAtEnd
      refine Reads.bind (parameter_reads (fun inside isInside => (shorter inside isInside).1)
        stands goesOn notAtEnd) ?_
      rintro first ⟨parameter, nodes, consumed⟩
      have passed := parameter.afterAll?_tokens true rfl enclosing
      refine Reads.bind (Reads.earlier consumed.pending consumed.finalSpan passed
        ((shorter _ first.shorter).2 enclosing (consumed.stands stands rfl))) ?_
      rintro others ⟨rest, othersResult, consumedOthers, ends⟩
      exact ⟨.paramlist parameter rest, by simp [Derivation.nodes, nodes, othersResult],
        consumed.trans consumedOthers, ends⟩

/-- One statement after the other. -/
theorem statementsRead_of_shorter
    (shorter : ∀ inside : State, inside.pending.length < state.pending.length →
      StatementsRead inside ∧ ParametersRead inside) : StatementsRead state := by
  intro enclosing stands
  rw [statements]
  split
  · rename_i ends
    exact ⟨.emptyProgram, rfl, .refl stands.sound, ends⟩
  · rename_i goesOn
    rw [Bool.not_eq_true] at goesOn
    refine Reads.bind (statement_reads shorter stands goesOn) ?_
    rintro first ⟨statement, nodes, consumed⟩
    have passed := statement.afterAll?_tokens false rfl enclosing
    refine Reads.bind (Reads.earlier consumed.pending consumed.finalSpan passed
      ((shorter _ first.shorter).1 enclosing (consumed.stands stands rfl))) ?_
    rintro others ⟨rest, othersResult, consumedOthers, ends⟩
    refine ⟨.program statement rest, ?_, consumed.trans consumedOthers, ends⟩
    simp only [Derivation.nodes, nodes, othersResult]
    split <;> rfl

/-- The statements and the parameters of any state are those of the grammar. -/
theorem statements_and_parameters_read (state : State) :
    StatementsRead state ∧ ParametersRead state := by
  induction length : state.pending.length using Nat.strongRecOn generalizing state with
  | ind count inductionHypothesis =>
      have shorter : ∀ inside : State, inside.pending.length < state.pending.length →
          StatementsRead inside ∧ ParametersRead inside := fun inside isInside =>
        inductionHypothesis _ (by omega) inside rfl
      exact ⟨statementsRead_of_shorter shorter, parametersRead_of_shorter shorter⟩

end BlockData.Parsing
