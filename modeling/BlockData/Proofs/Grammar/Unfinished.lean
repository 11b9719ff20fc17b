import BlockData.Proofs.Grammar.Nesting

/-!
# Unfinished programs

What tokens have derived when they stop in the middle of a program: at each level a
program so far, and perhaps the head and some parameters of an expression, with a
block opened behind them for the next level. Walking through tokens without a
refusal derives an unfinished program and the other way around (`unfinished_iff`), so
the place that the walk reaches says what the tokens have left open.
-/

namespace BlockData

/-- The tokens of an unfinished program, and what waits for its end behind them. -/
inductive Unfinished : Nesting → List Token → Prop where
  /-- Nothing waits behind a program. -/
  | program {tokens : List Token} (isProgram : IsProgram tokens) : Unfinished .top tokens
  /-- An expression waits for its terminator. -/
  | expression {enclosing : List (Delimiter × Bool)} {earlier : List Token}
      (outside : Unfinished ⟨false, enclosing⟩ earlier) (head : Token) (isValue : head.kind.isValue)
      (parameters : Derivation .paramlist) :
      Unfinished ⟨true, enclosing⟩ (earlier ++ head :: parameters.tokens)
  /-- A block waits for its closing bracket. -/
  | block {inExpression : Bool} {enclosing : List (Delimiter × Bool)} {earlier inner : List Token}
      (outside : Unfinished ⟨inExpression, enclosing⟩ earlier) {delimiter : Delimiter}
      (opened : Token) (opens : opened.kind = .opening delimiter) (isProgram : IsProgram inner) :
      Unfinished ⟨false, (delimiter, inExpression) :: enclosing⟩ (earlier ++ opened :: inner)

/-- A parameter can be written behind parameters. -/
theorem Derivation.exists_paramlist_append (first : Derivation .paramlist)
    (last : Derivation .parameter) :
    ∃ joined : Derivation .paramlist, joined.tokens = first.tokens ++ last.tokens := by
  suffices ∀ {phrase} (derivation : Derivation phrase), phrase = .paramlist →
      ∃ joined : Derivation .paramlist, joined.tokens = derivation.tokens ++ last.tokens from
    this first rfl
  intro phrase derivation
  induction derivation with
  | emptyParamlist =>
      intro _
      exact ⟨.paramlist last .emptyParamlist, by simp [tokens]⟩
  | paramlist parameter others _ inductionHypothesis =>
      intro _
      obtain ⟨joined, joinedTokens⟩ := inductionHypothesis rfl
      exact ⟨.paramlist parameter joined, by simp [tokens, joinedTokens]⟩
  | _ => intro sort; cases sort

namespace Unfinished

variable {enclosing : List (Delimiter × Bool)} {tokens : List Token}

/-- A statement goes on with the program of the innermost level. -/
theorem append_statement (unfinished : Unfinished ⟨false, enclosing⟩ tokens)
    (statement : Derivation .statement) :
    Unfinished ⟨false, enclosing⟩ (tokens ++ statement.tokens) := by
  have isProgram : IsProgram statement.tokens :=
    ⟨.program statement .emptyProgram, by simp [Derivation.tokens]⟩
  cases unfinished with
  | program before => exact .program (before.append isProgram)
  | block outside opened opens before =>
      rw [List.append_assoc, List.cons_append]
      exact .block outside opened opens (before.append isProgram)

/-- A parameter goes on with the expression of the innermost level. -/
theorem append_parameter (unfinished : Unfinished ⟨true, enclosing⟩ tokens)
    (parameter : Derivation .parameter) :
    Unfinished ⟨true, enclosing⟩ (tokens ++ parameter.tokens) := by
  cases unfinished with
  | expression outside head isValue parameters =>
      obtain ⟨joined, joinedTokens⟩ := parameters.exists_paramlist_append parameter
      rw [List.append_assoc, List.cons_append, ← joinedTokens]
      exact .expression outside head isValue joined

/-- A block goes on with whatever it stands in. -/
theorem append_block {inExpression : Bool}
    (unfinished : Unfinished ⟨inExpression, enclosing⟩ tokens) (block : Derivation .block) :
    Unfinished ⟨inExpression, enclosing⟩ (tokens ++ block.tokens) := by
  cases inExpression with
  | false => exact unfinished.append_statement (.blockStatement block)
  | true => exact unfinished.append_parameter (.blockParameter block)

/-- A token that may come next goes on with an unfinished program. -/
theorem step {nesting next : Nesting} {token : Token} (unfinished : Unfinished nesting tokens)
    (passes : Nesting.Passes nesting token.kind next) : Unfinished next (tokens ++ [token]) := by
  generalize found : token.kind = kind at passes
  cases passes with
  | value inExpression enclosing kind =>
      have isValue : token.kind.isValue = true := by rw [found]; rfl
      cases inExpression with
      | false => exact .expression unfinished token isValue .emptyParamlist
      | true => exact unfinished.append_parameter (.value token isValue)
  | terminator inExpression enclosing kind =>
      have isTerminator : token.kind.isTerminator = true := by rw [found]; rfl
      cases inExpression with
      | false => exact unfinished.append_statement (.blankStatement (.blank token isTerminator))
      | true =>
          cases unfinished with
          | expression outside head isValue parameters =>
              have ended := outside.append_statement
                (.expressionStatement (.expression head isValue parameters token isTerminator))
              simpa [Derivation.tokens] using ended
  | opening inExpression enclosing delimiter =>
      exact .block unfinished token found isProgram_nil
  | closing delimiter asParameter outer =>
      cases unfinished with
      | block outside opened opens isProgram =>
          obtain ⟨inner, rfl⟩ := isProgram
          have ended := outside.append_block (.block _ opened opens inner token found)
          simpa [Derivation.tokens] using ended
  | comment enclosing => exact unfinished.append_statement (.comment token found)

/-- Tokens that may stand where they do go on with an unfinished program. -/
theorem walk {nesting reached : Nesting} {more : List Token}
    (unfinished : Unfinished nesting tokens) (walked : nesting.afterAll? more = some reached) :
    Unfinished reached (tokens ++ more) := by
  induction more generalizing nesting tokens with
  | nil =>
      obtain rfl := Option.some.inj walked
      rwa [List.append_nil]
  | cons token others inductionHypothesis =>
      obtain ⟨next, passes, behind⟩ := Nesting.exists_of_afterAll?_cons walked
      rw [← List.singleton_append, ← List.append_assoc]
      exact inductionHypothesis (unfinished.step passes) behind

end Unfinished

/-- Every token of an unfinished program may stand where it does. -/
theorem Unfinished.afterAll?_tokens {reached : Nesting} {tokens : List Token}
    (unfinished : Unfinished reached tokens) : Nesting.top.afterAll? tokens = some reached := by
  induction unfinished with
  | program isProgram =>
      obtain ⟨program, rfl⟩ := isProgram
      exact program.afterAll?_tokens false rfl []
  | expression outside head isValue parameters outsideHypothesis =>
      rw [Nesting.afterAll?_append, outsideHypothesis, Option.bind_some, Nesting.afterAll?_cons,
        Nesting.after?_of_isValue _ isValue, Option.bind_some]
      exact parameters.afterAll?_tokens true rfl _
  | block outside opened opens isProgram outsideHypothesis =>
      obtain ⟨inner, rfl⟩ := isProgram
      rw [Nesting.afterAll?_append, outsideHypothesis, Option.bind_some, Nesting.afterAll?_cons,
        opens]
      exact inner.afterAll?_tokens false rfl _

/-- The unfinished programs are the tokens that may stand where they do, and what waits
behind them is the place that they lead to. -/
theorem unfinished_iff {tokens : List Token} {reached : Nesting} :
    Unfinished reached tokens ↔ Nesting.top.afterAll? tokens = some reached :=
  ⟨Unfinished.afterAll?_tokens, Unfinished.walk (.program isProgram_nil)⟩

end BlockData
