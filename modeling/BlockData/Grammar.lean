import BlockData.Node

/-!
# The grammar

The grammar of the language, apart from any way of parsing it. A derivation is a
finished tree of rules over tokens: `tokens` reads off what it derives, from left
to right, and `nodes` what of it belongs to the tree of a program. Blank
statements and terminators leave no node, and the program of a block leaves none
of its own.

```text
program    → statement program | nothing
statement  → expression | block | blank | comment
expression → value paramlist terminator
paramlist  → parameter paramlist | nothing
parameter  → value | block
block      → opening program closing
blank      → terminator
```
-/

namespace BlockData

/-- The sorts of phrases that the grammar has rules for. -/
inductive Phrase where
  | program
  | statement
  | expression
  | paramlist
  | parameter
  | block
  | blank
deriving DecidableEq, Repr

/-- Derivations of a phrase, with a constructor for each alternative of each
rule. The tokens that a rule names are of the kinds that it asks for. -/
inductive Derivation : Phrase → Type where
  | emptyProgram : Derivation .program
  | program (first : Derivation .statement) (others : Derivation .program) : Derivation .program
  | expressionStatement (child : Derivation .expression) : Derivation .statement
  | blockStatement (child : Derivation .block) : Derivation .statement
  | blankStatement (child : Derivation .blank) : Derivation .statement
  | comment (token : Token) (isComment : token.kind = .comment) : Derivation .statement
  | expression (head : Token) (isValue : head.kind.isValue) (parameters : Derivation .paramlist)
      (terminator : Token) (isTerminator : terminator.kind.isTerminator) : Derivation .expression
  | emptyParamlist : Derivation .paramlist
  | paramlist (first : Derivation .parameter) (others : Derivation .paramlist) :
      Derivation .paramlist
  | value (token : Token) (isValue : token.kind.isValue) : Derivation .parameter
  | blockParameter (child : Derivation .block) : Derivation .parameter
  | block (delimiter : Delimiter) (opened : Token) (opens : opened.kind = .opening delimiter)
      (inner : Derivation .program) (closed : Token) (closes : closed.kind = .closing delimiter) :
      Derivation .block
  | blank (terminator : Token) (isTerminator : terminator.kind.isTerminator) : Derivation .blank

namespace Derivation

/-- The tokens that are derived, from left to right. -/
def tokens {phrase : Phrase} : Derivation phrase → List Token
  | .emptyProgram => []
  | .program first others => first.tokens ++ others.tokens
  | .expressionStatement child => child.tokens
  | .blockStatement child => child.tokens
  | .blankStatement child => child.tokens
  | .comment token _ => [token]
  | .expression head _ parameters terminator _ => head :: (parameters.tokens ++ [terminator])
  | .emptyParamlist => []
  | .paramlist first others => first.tokens ++ others.tokens
  | .value token _ => [token]
  | .blockParameter child => child.tokens
  | .block _ opened _ inner closed _ => opened :: (inner.tokens ++ [closed])
  | .blank terminator _ => [terminator]

/-- The nodes of a derivation. The parameters of an expression stand where the
token behind its head stands, and a block reaches from its opening bracket to its
closing one. -/
def nodes {phrase : Phrase} : Derivation phrase → List Node
  | .emptyProgram => []
  | .program first others => first.nodes ++ others.nodes
  | .expressionStatement child => child.nodes
  | .blockStatement child => child.nodes
  | .blankStatement _ => []
  | .comment token _ => [.ofToken token]
  | .expression head _ parameters terminator _ =>
      let paramlist := Node.node .paramlist none
        (parameters.tokens.headD terminator).span parameters.nodes
      [.node .expression none head.span [.ofToken head, paramlist]]
  | .emptyParamlist => []
  | .paramlist first others => first.nodes ++ others.nodes
  | .value token _ => [.ofToken token]
  | .blockParameter child => child.nodes
  | .block delimiter opened _ inner closed _ =>
      [.node (.block delimiter) none { opened.span with stop := closed.span.stop } inner.nodes]
  | .blank _ _ => []

/-- The tree of a program in front of the end of input: its statements under a
program under a root, both of which stand where the first token stands. -/
def tree (program : Derivation .program) (finalSpan : Span) : Node :=
  let place := (program.tokens.headD (.atEnd finalSpan)).span
  .node .root none place [.node .program none place program.nodes]

end Derivation

/-- Whether tokens are a program. -/
def IsProgram (tokens : List Token) : Prop :=
  ∃ program : Derivation .program, program.tokens = tokens

/-- Whether tokens can be continued to a program. -/
def IsProgramPrefix (tokens : List Token) : Prop :=
  ∃ further, IsProgram (tokens ++ further)

/-- A text without tokens is a program. -/
theorem isProgram_nil : IsProgram [] :=
  ⟨.emptyProgram, rfl⟩

/-- Programs can be written one after the other. -/
theorem IsProgram.append {first second : List Token} (firstProgram : IsProgram first)
    (secondProgram : IsProgram second) : IsProgram (first ++ second) := by
  obtain ⟨derivation, rfl⟩ := firstProgram
  obtain ⟨other, rfl⟩ := secondProgram
  suffices ∀ {phrase} (derivation : Derivation phrase), phrase = .program →
      ∃ joined : Derivation .program, joined.tokens = derivation.tokens ++ other.tokens from
    this derivation rfl
  intro phrase derivation
  induction derivation with
  | emptyProgram =>
      intro _
      exact ⟨other, by simp [Derivation.tokens]⟩
  | program first others _ inductionHypothesis =>
      intro _
      obtain ⟨joined, joinedTokens⟩ := inductionHypothesis rfl
      exact ⟨.program first joined, by simp [Derivation.tokens, joinedTokens]⟩
  | _ => intro sort; cases sort

end BlockData
