import BlockData.Parsing.Rules
import BlockData.Proofs.Grammar.Nesting

/-!
# Contracts of parsing steps

What a step of the parser promises wherever it starts: either it gives a result
of a certain kind, or it fails at the first token that may not stand where it
does. `Reads` states such a promise, `Reads.bind` puts promises together, and
`accept_reads` and `expect_reads` are the promises of the two functions that
consume tokens.
-/

namespace BlockData

namespace Nesting

/-- What the grammar wants where a token of some kind is refused. -/
def wanted (nesting : Nesting) (found : Kind) : Wanted :=
  if nesting.inExpression then
    if found = .eof then .restOfExpression nesting.openBlocks.head? else .parameter
  else if found.endsProgram then
    match nesting.openBlocks with
    | [] => .oneOf [.eof]
    | innermost :: _ => .oneOf [.closing innermost]
  else .statement

/-- Whether a token of some kind may come next. The end of input may come where
nothing waits. -/
def admits (nesting : Nesting) (kind : Kind) : Bool :=
  (nesting.after? kind).isSome || (nesting == top && kind == .eof)

/-- The error of the next token, if it is malformed or may not stand here. -/
def refusal? (nesting : Nesting) (token : Token) : Option ParseError :=
  if token.isFail then some (.lexical (.ofToken token))
  else if nesting.admits token.kind then none
  else some (.unexpected token.kind (nesting.wanted token.kind) token.span.line token.span.column)

end Nesting

/-- An error is that of the first token of a stream that may not stand where it
does: all tokens before it may. -/
def FailsWithin (nesting : Nesting) (pending : List Token) (finalSpan : Span)
    (error : ParseError) : Prop :=
  ∃ before after reached, pending = before ++ after ∧ nesting.afterAll? before = some reached ∧
    reached.refusal? (after.headD (.atEnd finalSpan)) = some error

namespace Parsing

/-- The open blocks of a state are those of a place, and its lookahead is sound. -/
structure Stands (state : State) (nesting : Nesting) : Prop where
  openBlocks : state.openBlocks = nesting.openBlocks
  sound : state.lookahead.isFail = false

/-- Some tokens are what lies between two states with the same open blocks. -/
structure Consumes (state : State) (tokens : List Token) (after : State) : Prop where
  pending : state.pending = tokens ++ after.pending
  finalSpan : after.finalSpan = state.finalSpan
  openBlocks : after.openBlocks = state.openBlocks
  sound : after.lookahead.isFail = false

/-- A step either gives a result with a property, or it fails at the first token
that may not stand where it does. -/
def Reads {α : Type} (state : State) (nesting : Nesting) (outcome : Except ParseError α)
    (result : α → Prop) : Prop :=
  match outcome with
  | .ok value => result value
  | .error error => FailsWithin nesting state.pending state.finalSpan error

section

variable {α β : Type} {state after : State} {nesting next : Nesting}

/-- Consuming nothing changes nothing. -/
theorem Consumes.refl (sound : state.lookahead.isFail = false) : Consumes state [] state :=
  ⟨rfl, rfl, rfl, sound⟩

/-- Tokens are consumed one part after the other. -/
theorem Consumes.trans {final : State} {first second : List Token}
    (before : Consumes state first after) (behind : Consumes after second final) :
    Consumes state (first ++ second) final where
  pending := by rw [before.pending, behind.pending, List.append_assoc]
  finalSpan := behind.finalSpan.trans before.finalSpan
  openBlocks := behind.openBlocks.trans before.openBlocks
  sound := behind.sound

/-- Behind consumed tokens a state stands where they lead to. -/
theorem Consumes.stands {tokens : List Token} (consumed : Consumes state tokens after)
    (stands : Stands state nesting) (sameBlocks : next.openBlocks = nesting.openBlocks) :
    Stands after next where
  openBlocks := by rw [consumed.openBlocks, stands.openBlocks, sameBlocks]
  sound := consumed.sound

/-- The lookahead before consumed tokens is the first of them. -/
theorem Consumes.lookahead {tokens : List Token} (consumed : Consumes state tokens after) :
    state.lookahead = tokens.headD after.lookahead := by
  unfold State.lookahead
  rw [consumed.pending, consumed.finalSpan]
  cases tokens <;> rfl

/-- An error further on is an error from here on, if the tokens up to there may
stand where they do. -/
theorem FailsWithin.earlier {first pending : List Token} {finalSpan : Span}
    {error : ParseError} (passed : nesting.afterAll? first = some next)
    (fails : FailsWithin next pending finalSpan error) :
    FailsWithin nesting (first ++ pending) finalSpan error := by
  obtain ⟨before, behind, reached, rfl, walked, refused⟩ := fails
  refine ⟨first ++ before, behind, reached, by rw [List.append_assoc], ?_, refused⟩
  rw [Nesting.afterAll?_append, passed, Option.bind_some, walked]

/-- A step after another one keeps its promise if both keep theirs. -/
theorem Reads.bind {outcome : Except ParseError α} {continuation : α → Except ParseError β}
    {middle : α → Prop} {result : β → Prop} (first : Reads state nesting outcome middle)
    (rest : ∀ value, middle value → Reads state nesting (continuation value) result) :
    Reads state nesting (outcome >>= continuation) result := by
  cases outcome with
  | ok value => exact rest value first
  | error error => exact first

/-- A promise can be weakened. -/
theorem Reads.imp {outcome : Except ParseError α} {result weaker : α → Prop}
    (reads : Reads state nesting outcome result) (implies : ∀ value, result value → weaker value) :
    Reads state nesting outcome weaker := by
  cases outcome with
  | ok value => exact implies value reads
  | error error => exact reads

/-- A promise at a later state is one at an earlier state as well. -/
theorem Reads.earlier {outcome : Except ParseError α} {result : α → Prop} {first : List Token}
    (pending : state.pending = first ++ after.pending)
    (finalSpan : after.finalSpan = state.finalSpan)
    (passed : nesting.afterAll? first = some next) (reads : Reads after next outcome result) :
    Reads state nesting outcome result := by
  cases outcome with
  | ok value => exact reads
  | error error =>
      have fails := FailsWithin.earlier passed reads
      rw [← pending, finalSpan] at fails
      exact fails

/-- A refused lookahead is the first token that may not stand where it does. -/
theorem reads_refuse {result : α → Prop} {wanted : Wanted}
    (sound : state.lookahead.isFail = false) (refused : nesting.admits state.ahead = false)
    (isWanted : nesting.wanted state.ahead = wanted) :
    Reads state nesting (.error (state.refuse wanted)) result := by
  refine ⟨[], state.pending, nesting, rfl, rfl, ?_⟩
  change nesting.refusal? state.lookahead = _
  rw [Nesting.refusal?, sound, ← isWanted]
  simp only [Bool.false_eq_true, if_false]
  change (if nesting.admits state.ahead = true then none else _) = _
  rw [refused]
  rfl

/-- Accepting a token consumes it, or the lookahead is of another kind. -/
theorem accept_reads (wanted : Kind → Bool) (notAtEnd : wanted .eof = false)
    (admitted : ∀ kind, wanted kind = true → (nesting.after? kind).isSome) :
    Reads state nesting (accept wanted state) fun
      | none => wanted state.ahead = false
      | some taken =>
          wanted taken.result.kind = true ∧ Consumes state [taken.result] taken.state := by
  obtain ⟨pending, finalSpan, openBlocks⟩ := state
  cases pending with
  | nil => exact notAtEnd
  | cons token others =>
      simp only [accept]
      split
      · rename_i isWanted
        split
        · rename_i error malformed
          -- the token may stand here, and the malformed one is the one behind it
          obtain ⟨behind, stepped⟩ := Option.isSome_iff_exists.mp (admitted _ isWanted)
          refine ⟨[token], others, behind, rfl, by simp [stepped], ?_⟩
          simp only [State.lexicalError?, Option.ite_none_right_eq_some] at malformed
          rw [← malformed.2]
          exact if_pos malformed.1
        · rename_i noError
          refine ⟨isWanted, rfl, rfl, rfl, ?_⟩
          simpa [State.lexicalError?] using noError
      · rename_i unwanted
        exact Bool.eq_false_iff.mpr unwanted

/-- Expecting a token consumes it, or refuses it where it may not stand. -/
theorem expect_reads (kinds : List Kind) (sound : state.lookahead.isFail = false)
    (notAtEnd : .eof ∉ kinds) (admitted : ∀ kind ∈ kinds, (nesting.after? kind).isSome)
    (refused : state.ahead ∉ kinds →
      nesting.admits state.ahead = false ∧ nesting.wanted state.ahead = .oneOf kinds) :
    Reads state nesting (expect kinds state) fun taken =>
      taken.result.kind ∈ kinds ∧ Consumes state [taken.result] taken.state := by
  have accepts : Reads state nesting (accept kinds.contains state) _ :=
    accept_reads kinds.contains (by simpa using notAtEnd) (by simpa using admitted)
  unfold expect
  split
  · rename_i failed
    rw [failed] at accepts
    exact accepts
  · rename_i accepted
    rw [accepted] at accepts
    simpa [Reads] using accepts
  · rename_i other
    rw [other] at accepts
    have unlisted : state.ahead ∉ kinds := by simpa [Reads] using accepts
    exact reads_refuse sound (refused unlisted).1 (refused unlisted).2

end

end Parsing

end BlockData
