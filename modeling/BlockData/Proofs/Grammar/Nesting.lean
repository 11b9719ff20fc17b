import BlockData.Grammar

/-!
# Nesting

Where a token stands in a program that is not finished: whether an expression
waits for its terminator, and which blocks wait for their closing brackets.
`after?` moves past one token and refuses those that no program has there. Every
phrase leads back to where it started (`Derivation.afterAll?_tokens`), and
whatever waits for its end can be finished (`afterAll?_ending`).
-/

namespace BlockData

/-- What waits for its end at some place of a program. -/
structure Nesting where
  /-- Whether a value has started an expression that no terminator has ended. -/
  inExpression : Bool
  /-- The open blocks, the innermost first. A block that is a parameter of an
  unfinished expression is marked. -/
  enclosing : List (Delimiter × Bool)
deriving DecidableEq

namespace Nesting

/-- Nothing waits for its end. -/
def top : Nesting :=
  ⟨false, []⟩

/-- The styles of the open blocks, the innermost first. -/
def openBlocks (nesting : Nesting) : List Delimiter :=
  nesting.enclosing.map Prod.fst

/-- What waits behind a token, if the token may stand here. -/
def after? (nesting : Nesting) : Kind → Option Nesting
  | .value _ => some ⟨true, nesting.enclosing⟩
  | .terminator _ => some ⟨false, nesting.enclosing⟩
  | .opening delimiter => some ⟨false, (delimiter, nesting.inExpression) :: nesting.enclosing⟩
  | .closing delimiter =>
      match nesting with
      | ⟨false, (innermost, asParameter) :: outer⟩ =>
          if innermost = delimiter then some ⟨asParameter, outer⟩ else none
      | _ => none
  | .comment => if nesting.inExpression then none else some nesting
  | _ => none

/-- What waits behind some tokens, if each of them may stand where it does. -/
def afterAll? (nesting : Nesting) : List Token → Option Nesting
  | [] => some nesting
  | token :: others => (nesting.after? token.kind).bind fun next => next.afterAll? others

@[simp] theorem afterAll?_nil (nesting : Nesting) : nesting.afterAll? [] = some nesting :=
  rfl

@[simp] theorem afterAll?_cons (nesting : Nesting) (token : Token) (others : List Token) :
    nesting.afterAll? (token :: others) =
      (nesting.after? token.kind).bind fun next => next.afterAll? others :=
  rfl

/-- Tokens are passed one part after the other. -/
theorem afterAll?_append (nesting : Nesting) (first second : List Token) :
    nesting.afterAll? (first ++ second) =
      (nesting.afterAll? first).bind fun next => next.afterAll? second := by
  induction first generalizing nesting with
  | nil => rfl
  | cons token others inductionHypothesis =>
      simp only [List.cons_append, afterAll?_cons, Option.bind_assoc, inductionHypothesis]

/-- A value may stand everywhere. -/
theorem after?_of_isValue {kind : Kind} (nesting : Nesting) (isValue : kind.isValue) :
    nesting.after? kind = some ⟨true, nesting.enclosing⟩ := by
  cases kind <;> first | rfl | cases isValue

/-- A terminator may stand everywhere. -/
theorem after?_of_isTerminator {kind : Kind} (nesting : Nesting)
    (isTerminator : kind.isTerminator) :
    nesting.after? kind = some ⟨false, nesting.enclosing⟩ := by
  cases kind <;> first | rfl | cases isTerminator

/-- A closing bracket leads back to where its block was opened. -/
theorem after?_closing (delimiter : Delimiter) (asParameter : Bool)
    (outer : List (Delimiter × Bool)) :
    after? ⟨false, (delimiter, asParameter) :: outer⟩ (.closing delimiter) =
      some ⟨asParameter, outer⟩ := by
  simp [after?]

/-- How a token is passed: the place before it, its kind and the place behind it. -/
inductive Passes : Nesting → Kind → Nesting → Prop where
  /-- A value starts an expression or is a parameter of one. -/
  | value (inExpression : Bool) (enclosing : List (Delimiter × Bool)) (kind : ValueKind) :
      Passes ⟨inExpression, enclosing⟩ (.value kind) ⟨true, enclosing⟩
  /-- A terminator ends an expression or is a blank statement. -/
  | terminator (inExpression : Bool) (enclosing : List (Delimiter × Bool)) (kind : Terminator) :
      Passes ⟨inExpression, enclosing⟩ (.terminator kind) ⟨false, enclosing⟩
  /-- An opening bracket goes one block deeper. -/
  | opening (inExpression : Bool) (enclosing : List (Delimiter × Bool)) (delimiter : Delimiter) :
      Passes ⟨inExpression, enclosing⟩ (.opening delimiter)
        ⟨false, (delimiter, inExpression) :: enclosing⟩
  /-- A closing bracket of the style of the innermost block leaves it. -/
  | closing (delimiter : Delimiter) (asParameter : Bool) (outer : List (Delimiter × Bool)) :
      Passes ⟨false, (delimiter, asParameter) :: outer⟩ (.closing delimiter) ⟨asParameter, outer⟩
  /-- A comment stands between statements. -/
  | comment (enclosing : List (Delimiter × Bool)) :
      Passes ⟨false, enclosing⟩ .comment ⟨false, enclosing⟩

/-- Whatever is passed is passed in one of these ways. -/
theorem passes_of_after? {nesting next : Nesting} {kind : Kind}
    (stepped : nesting.after? kind = some next) : Passes nesting kind next := by
  obtain ⟨inExpression, enclosing⟩ := nesting
  cases kind with
  | value kind => obtain rfl := Option.some.inj stepped; exact .value ..
  | terminator kind => obtain rfl := Option.some.inj stepped; exact .terminator ..
  | opening delimiter => obtain rfl := Option.some.inj stepped; exact .opening ..
  | closing found =>
      cases inExpression with
      | true => cases stepped
      | false =>
          cases enclosing with
          | nil => cases stepped
          | cons block outer =>
              simp only [after?, Option.ite_none_right_eq_some] at stepped
              obtain ⟨rfl, isNext⟩ := stepped
              obtain rfl := Option.some.inj isNext
              exact .closing ..
  | comment =>
      cases inExpression with
      | true => cases stepped
      | false => obtain rfl := Option.some.inj stepped; exact .comment ..
  | _ => cases stepped

/-- What it means to pass a token and others behind it. -/
theorem exists_of_afterAll?_cons {nesting reached : Nesting} {token : Token} {others : List Token}
    (walked : nesting.afterAll? (token :: others) = some reached) :
    ∃ next, Passes nesting token.kind next ∧ next.afterAll? others = some reached := by
  rw [afterAll?_cons, Option.bind_eq_some_iff] at walked
  obtain ⟨next, stepped, behind⟩ := walked
  exact ⟨next, passes_of_after? stepped, behind⟩

/-- A token of a kind, without a value and at no particular place. -/
def bareToken (kind : Kind) : Token :=
  ⟨kind, none, ⟨0, 0, 1, 1⟩⟩

/-- Tokens that end all that waits: a terminator for an expression, and the
closing bracket of each open block before whatever waits outside of it. -/
def ending (inExpression : Bool) : List (Delimiter × Bool) → List Token
  | [] => if inExpression then [bareToken (.terminator .newline)] else []
  | (delimiter, asParameter) :: outer =>
      (if inExpression then [bareToken (.terminator .newline)] else []) ++
        bareToken (.closing delimiter) :: ending asParameter outer

/-- Nothing waits behind the ending. -/
theorem afterAll?_ending (inExpression : Bool) (enclosing : List (Delimiter × Bool)) :
    afterAll? ⟨inExpression, enclosing⟩ (ending inExpression enclosing) = some top := by
  induction enclosing generalizing inExpression with
  | nil => cases inExpression <;> rfl
  | cons block outer inductionHypothesis =>
      obtain ⟨delimiter, asParameter⟩ := block
      have closed := inductionHypothesis asParameter
      cases inExpression <;> simpa [ending, bareToken, after?] using closed

end Nesting

/-- Whether a phrase stands inside of expressions, or between them. A block does
both. -/
def Phrase.standsIn (inExpression : Bool) : Phrase → Bool
  | .paramlist => inExpression
  | .parameter => inExpression
  | .block => true
  | _ => !inExpression

/-- A phrase ends where it started: whatever it opens, it also closes. -/
theorem Derivation.afterAll?_tokens {phrase : Phrase} (derivation : Derivation phrase)
    (inExpression : Bool) (stands : phrase.standsIn inExpression)
    (enclosing : List (Delimiter × Bool)) :
    Nesting.afterAll? ⟨inExpression, enclosing⟩ derivation.tokens =
      some ⟨inExpression, enclosing⟩ := by
  induction derivation generalizing inExpression enclosing with
  | emptyProgram => rfl
  | program first others firstHypothesis othersHypothesis =>
      simp only [tokens, Nesting.afterAll?_append, firstHypothesis _ stands enclosing,
        Option.bind_some, othersHypothesis _ stands enclosing]
  | expressionStatement child childHypothesis => exact childHypothesis _ stands enclosing
  | blockStatement child childHypothesis => exact childHypothesis _ rfl enclosing
  | blankStatement child childHypothesis => exact childHypothesis _ stands enclosing
  | comment token isComment =>
      have outside : inExpression = false := by simpa [Phrase.standsIn] using stands
      simp [tokens, isComment, Nesting.after?, outside]
  | expression head isValue parameters terminator isTerminator parametersHypothesis =>
      have outside : inExpression = false := by simpa [Phrase.standsIn] using stands
      have within := parametersHypothesis true rfl enclosing
      simp only [tokens, Nesting.afterAll?_cons, Nesting.after?_of_isValue _ isValue,
        Option.bind_some, Nesting.afterAll?_append, within,
        Nesting.after?_of_isTerminator _ isTerminator, Nesting.afterAll?_nil, outside]
  | emptyParamlist => rfl
  | paramlist first others firstHypothesis othersHypothesis =>
      simp only [tokens, Nesting.afterAll?_append, firstHypothesis _ stands enclosing,
        Option.bind_some, othersHypothesis _ stands enclosing]
  | value token isValue =>
      have inside : inExpression = true := stands
      simp [tokens, Nesting.after?_of_isValue _ isValue, inside]
  | blockParameter child childHypothesis => exact childHypothesis _ rfl enclosing
  | block delimiter opened opens inner closed closes innerHypothesis =>
      have within := innerHypothesis false rfl
        ((delimiter, inExpression) :: enclosing)
      simp only [tokens, Nesting.afterAll?_cons, opens, Nesting.after?, Option.bind_some,
        Nesting.afterAll?_append, within, closes, if_true, Nesting.afterAll?_nil]
  | blank terminator isTerminator =>
      have outside : inExpression = false := by simpa [Phrase.standsIn] using stands
      simp [tokens, Nesting.after?_of_isTerminator _ isTerminator, outside]

end BlockData
