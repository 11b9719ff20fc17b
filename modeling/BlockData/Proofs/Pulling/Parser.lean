import BlockData.Parsing.Rules

/-!
# A parser that pulls its tokens

The rules of the grammar as they run on a source that hands out one token after the other, the
next one each time that it is asked. The parser holds one token of lookahead and the open blocks,
and it keeps both, and the tokens that were pulled, when a rule fails. `Parser.advance` is the
only place where a token is pulled, and `outcome_advance`, `outcome_accept` and `outcome_expect`
say how it and the functions that call it end.

A source need not come to an end, and then the rules may call each other without end. So they
are given to any depth of calls (`Parser.rules`). What comes to an end has its outcome to all
depths from some one on (`rules_extend`), and what does not has none to any depth.
-/

namespace BlockData

/-- A parser in the middle of its work. -/
structure Parser where
  /-- The tokens that were pulled, the first one first. -/
  pulled : List Token
  /-- The token that decides what is parsed next. -/
  lookahead : Token
  /-- The open blocks, the innermost first. -/
  openBlocks : List Delimiter

namespace Parser

/-- How a part of parsing ends: with a result or an error, and with the parser as it is then. -/
abbrev Outcome (α : Type) : Type :=
  Except ParseError α × Parser

/-- A part of parsing. -/
abbrev Step (α : Type) : Type :=
  ExceptT ParseError (StateT Parser Option) α

/-- The outcome of a step, if it comes to an end. -/
abbrev outcome {α : Type} (parser : Parser) (step : Step α) : Option (Outcome α) :=
  StateT.run (ExceptT.run step) parser

/-- Before the first token is pulled. -/
def fresh : Parser :=
  ⟨[], .atEnd ⟨0, 0, 1, 1⟩, []⟩

/-- Behind the next token that is pulled. The source hands out its tokens by their numbers. -/
def next (source : Nat → Token) (parser : Parser) : Parser :=
  let token := source parser.pulled.length
  { parser with pulled := parser.pulled ++ [token], lookahead := token }

/-- How pulling the next token ends: with a result, unless that token is malformed. -/
def afterNext {α : Type} (source : Nat → Token) (parser : Parser) (result : α) : Outcome α :=
  let after := parser.next source
  (if after.lookahead.isFail then .error (.lexical (.ofToken after.lookahead)) else .ok result,
    after)

/-- Inside of a block. -/
def enter (delimiter : Delimiter) (parser : Parser) : Parser :=
  { parser with openBlocks := delimiter :: parser.openBlocks }

/-- Behind the statements of the innermost block. -/
def leave (parser : Parser) : Parser :=
  { parser with openBlocks := parser.openBlocks.tail }

/-- The error of a lookahead that the grammar does not allow. -/
def refusal (parser : Parser) (wanted : Wanted) : ParseError :=
  .unexpected parser.lookahead.kind wanted parser.lookahead.span.line
    parser.lookahead.span.column

/-- Refuses the lookahead. -/
def refuse {α : Type} (wanted : Wanted) : Step α := do
  throw ((← get).refusal wanted)

variable (source : Nat → Token)

/-- Pulls the next token into the lookahead. It must not be malformed. -/
def advance : Step Unit := do
  modify (next source)
  let token := (← get).lookahead
  if token.isFail then throw (.lexical (.ofToken token))

/-- Consumes the lookahead if it is of a wanted kind. -/
def accept (wanted : Kind → Bool) : Step (Option Token) := do
  let token := (← get).lookahead
  if wanted token.kind then
    advance source
    return some token
  else return none

/-- Consumes the lookahead, which must be of one of some kinds. -/
def expect (kinds : List Kind) : Step Token := do
  match ← accept source kinds.contains with
  | some token => return token
  | none => refuse (.oneOf kinds)

/-- A token of a wanted kind as a leaf. -/
def leaf (wanted : Kind → Bool) : Step (Option Node) := do
  return (← accept source wanted).map .ofToken

/-- A value is a leaf. -/
def value : Step (Option Node) :=
  leaf source Kind.isValue

/-- A terminator is a leaf. -/
def terminator : Step (Option Node) :=
  leaf source Kind.isTerminator

/-- A comment is a leaf. -/
def comment : Step (Option Node) :=
  leaf source (· == .comment)

/-- A terminator alone is a blank statement. -/
def blank : Step (Option Node) := do
  return (← terminator source).map fun node => .node .blank none node.span []

/-- The rules of the grammar that call each other. -/
structure Rules where
  blockIn : Delimiter → Step (Option Node)
  block : Step (Option Node)
  parameter : Step Node
  parameters : Step (List Node)
  paramlist : Step Node
  expression : Step (Option Node)
  statement : Step Node
  statements : Step (List Node)
  program : Step Node

section

variable (called : Rules)

/-- A block in one style. Its statements are its children, without a program
between them. -/
def blockIn (delimiter : Delimiter) : Step (Option Node) := do
  match ← accept source (· == .opening delimiter) with
  | none => return none
  | some opened =>
      modify (enter delimiter)
      let inner ← called.program
      modify leave
      let closed ← expect source [.closing delimiter]
      return some (Parsing.blockNode delimiter opened closed inner.children)

/-- A block in any style. -/
def block : Step (Option Node) := do
  match ← called.blockIn .curly with
  | some node => return some node
  | none =>
      match ← called.blockIn .paren with
      | some node => return some node
      | none => called.blockIn .bracket

/-- A parameter of an expression. -/
def parameter : Step Node := do
  match ← value source with
  | some leaf => return leaf
  | none =>
      match ← called.block with
      | some node => return node
      | none => refuse .parameter

/-- The parameters up to a terminator. The end of input is none. -/
def parameters : Step (List Node) := do
  let here ← get
  if here.lookahead.kind.isTerminator then return []
  else if here.lookahead.kind = .eof then refuse (.restOfExpression here.openBlocks.head?)
  else
    let first ← called.parameter
    let others ← called.parameters
    return first :: others

/-- The parameters as one node. -/
def paramlist : Step Node := do
  let here ← get
  return .node .paramlist none here.lookahead.span (← called.parameters)

/-- A value with its parameters. -/
def expression : Step (Option Node) := do
  match ← value source with
  | none => return none
  | some head =>
      let params ← called.paramlist
      let _ ← expect source terminatorKinds
      return some (.node .expression none head.span [head, params])

/-- A statement. -/
def statement : Step Node := do
  match ← called.expression with
  | some node => return node
  | none =>
      match ← called.block with
      | some node => return node
      | none =>
          match ← blank source with
          | some node => return node
          | none =>
              match ← comment source with
              | some leaf => return leaf
              | none => refuse .statement

/-- The statements up to a closing bracket or the end of input. Blank statements
are not kept. -/
def statements : Step (List Node) := do
  let here ← get
  if here.lookahead.kind.endsProgram then return []
  else
    let first ← called.statement
    let others ← called.statements
    return if first.kind = .blank then others else first :: others

/-- The statements as one node. -/
def program : Step Node := do
  let here ← get
  return .node .program none here.lookahead.span (← called.statements)

/-- A program and the end of input behind it, under a root. -/
def root : Step Node := do
  let here ← get
  let inner ← called.program
  let _ ← expect source [.eof]
  return .node .root none here.lookahead.span [inner]

end

/-- The rules that call given ones. -/
def Rules.calling (called : Rules) : Rules where
  blockIn := Parser.blockIn source called
  block := Parser.block called
  parameter := Parser.parameter source called
  parameters := Parser.parameters called
  paramlist := Parser.paramlist called
  expression := Parser.expression source called
  statement := Parser.statement source called
  statements := Parser.statements called
  program := Parser.program called

/-- What has no outcome. -/
def endless {α : Type} : Step α :=
  fun _ => none

/-- The rules with calls to a certain depth. What goes on beyond it has no outcome. -/
def rules : Nat → Rules
  | 0 => ⟨fun _ => endless, endless, endless, endless, endless, endless, endless, endless, endless⟩
  | depth + 1 => (rules depth).calling source

/-- Parsing a source from its first token on, with calls to a certain depth. -/
def run (depth : Nat) : Option (Outcome Node) :=
  fresh.outcome do
    advance source
    root source (rules source depth)

section

variable {α β : Type} {source : Nat → Token}

/-- One step after the other. The second one does not run if the first one fails. -/
theorem outcome_bind (parser : Parser) (step : Step α) (others : α → Step β) :
    parser.outcome (step >>= others) = (parser.outcome step).bind fun
      | (.ok result, after) => after.outcome (others result)
      | (.error error, after) => some (.error error, after) := by
  simp only [outcome, bind, ExceptT.bind, ExceptT.run, ExceptT.mk, StateT.run, StateT.bind]
  congr 1
  funext ended
  obtain ⟨_ | _, after⟩ := ended <;> rfl

/-- A step after another one ends as it does alone, or the first one fails. -/
theorem outcome_bind_eq_some {parser : Parser} {step : Step α} {others : α → Step β}
    {ended : Outcome β} : parser.outcome (step >>= others) = some ended ↔
      (∃ result middle, parser.outcome step = some (.ok result, middle) ∧
        middle.outcome (others result) = some ended) ∨
      ∃ error middle, parser.outcome step = some (.error error, middle) ∧
        ended = (.error error, middle) := by
  rw [outcome_bind, Option.bind_eq_some_iff]
  constructor
  · rintro ⟨⟨_ | result, middle⟩, first, rest⟩
    · exact .inr ⟨_, middle, first, (Option.some.inj rest).symm⟩
    · exact .inl ⟨result, middle, first, rest⟩
  · rintro (⟨result, middle, first, rest⟩ | ⟨error, middle, first, rfl⟩)
    · exact ⟨_, first, rest⟩
    · exact ⟨_, first, rfl⟩

/-- Looking at the parser does not change it. -/
theorem outcome_get_bind (parser : Parser) (others : Parser → Step α) :
    parser.outcome (get >>= others) = parser.outcome (others parser) :=
  rfl

@[simp] theorem outcome_get (parser : Parser) : parser.outcome get = some (.ok parser, parser) :=
  rfl

@[simp] theorem outcome_modify (parser : Parser) (change : Parser → Parser) :
    parser.outcome (modify change) = some (.ok ⟨⟩, change parser) :=
  rfl

/-- A step that pulls a token, with a result that is given behind it. -/
theorem outcome_bind_of_pulls {parser : Parser} {step : Step α} {value : α}
    {others : α → Step β} {result : β}
    (pulls : parser.outcome step = some (parser.afterNext source value))
    (gives : others value = pure result) :
    parser.outcome (step >>= others) = some (parser.afterNext source result) := by
  rw [outcome_bind, pulls, Option.bind_some, afterNext, afterNext]
  by_cases malformed : (parser.next source).lookahead.isFail = true
  · rw [if_pos malformed, if_pos malformed]
  · rw [if_neg malformed, if_neg malformed]
    exact congrArg (outcome _) gives

/-- Advancing is pulling the next token. -/
theorem outcome_advance (parser : Parser) :
    parser.outcome (advance source) = some (parser.afterNext source ()) := by
  simp only [advance, outcome_bind, outcome_modify, outcome_get, Option.bind_some, afterNext]
  split <;> rfl

/-- A token of a wanted kind is consumed by pulling the one behind it. -/
theorem outcome_accept (parser : Parser) (wanted : Kind → Bool) :
    parser.outcome (accept source wanted) =
      if wanted parser.lookahead.kind then
        some (parser.afterNext source (some parser.lookahead))
      else some (.ok none, parser) := by
  rw [accept, outcome_get_bind]
  dsimp only
  split
  · exact outcome_bind_of_pulls (outcome_advance parser) rfl
  · rfl

/-- A token that is expected is consumed, or else refused. -/
theorem outcome_expect (parser : Parser) (kinds : List Kind) :
    parser.outcome (expect source kinds) =
      if kinds.contains parser.lookahead.kind then
        some (parser.afterNext source parser.lookahead)
      else some (.error (parser.refusal (.oneOf kinds)), parser) := by
  have accepts : parser.outcome (accept source kinds.contains) = _ :=
    outcome_accept parser kinds.contains
  split
  · rename_i isExpected
    rw [if_pos isExpected] at accepts
    exact outcome_bind_of_pulls accepts rfl
  · rename_i unexpected
    rw [if_neg unexpected] at accepts
    rw [expect, outcome_bind, accepts]
    rfl

end

/-- A step has all outcomes that another one has. -/
def Extends {α : Type} (further step : Step α) : Prop :=
  ∀ (parser : Parser) (ended : Outcome α),
    parser.outcome step = some ended → parser.outcome further = some ended

/-- Rules have all outcomes that other ones have. -/
structure Rules.Extend (further called : Rules) : Prop where
  blockIn : ∀ delimiter, Extends (further.blockIn delimiter) (called.blockIn delimiter)
  block : Extends further.block called.block
  parameter : Extends further.parameter called.parameter
  parameters : Extends further.parameters called.parameters
  paramlist : Extends further.paramlist called.paramlist
  expression : Extends further.expression called.expression
  statement : Extends further.statement called.statement
  statements : Extends further.statements called.statements
  program : Extends further.program called.program

section

variable {α β : Type} {source : Nat → Token} {called further : Rules}

/-- A step has its own outcomes. -/
theorem Extends.refl (step : Step α) : Extends step step :=
  fun _ _ ends => ends

/-- What has no outcome is extended by every step. -/
theorem Extends.endless (step : Step α) : Extends step endless :=
  fun _ _ ends => nomatch ends

/-- Steps one after the other have more outcomes if each of them has. -/
theorem Extends.bind {step furtherStep : Step α} {others furtherOthers : α → Step β}
    (first : Extends furtherStep step)
    (rest : ∀ value, Extends (furtherOthers value) (others value)) :
    Extends (furtherStep >>= furtherOthers) (step >>= others) := by
  intro parser ended whole
  rw [outcome_bind_eq_some] at whole ⊢
  rcases whole with ⟨value, middle, isFirst, isRest⟩ | ⟨error, middle, isFirst, isEnded⟩
  · exact .inl ⟨value, middle, first _ _ isFirst, rest value _ _ isRest⟩
  · exact .inr ⟨error, middle, first _ _ isFirst, isEnded⟩

/-- Trying something first, and going on with a rule that has more outcomes. -/
theorem Extends.alternatives {step furtherStep : Step (Option Node)} {given : Node → Step β}
    {others furtherOthers : Step β} (first : Extends furtherStep step)
    (rest : Extends furtherOthers others) :
    Extends
      (furtherStep >>= fun | some node => given node | none => furtherOthers)
      (step >>= fun | some node => given node | none => others) :=
  .bind first fun
    | some node => .refl (given node)
    | none => rest

/-- Rules that call rules with more outcomes have more themselves. -/
theorem Rules.Extend.calling (extend : further.Extend called) :
    (further.calling source).Extend (called.calling source) where
  blockIn := fun delimiter => .bind (.refl _) fun
    | none => .refl _
    | some opened => .bind (.refl _) fun _ => .bind extend.program fun _ => .refl _
  block := .alternatives (extend.blockIn .curly)
    (.alternatives (extend.blockIn .paren) (extend.blockIn .bracket))
  parameter := .alternatives (.refl _) (.alternatives extend.block (.refl _))
  parameters := .bind (.refl _) fun here => by
    split
    · exact .refl _
    · split
      · exact .refl _
      · exact .bind extend.parameter fun _ => .bind extend.parameters fun _ => .refl _
  paramlist := .bind (.refl _) fun _ => .bind extend.parameters fun _ => .refl _
  expression := .bind (.refl _) fun
    | none => .refl _
    | some head => .bind extend.paramlist fun _ => .refl _
  statement := .alternatives extend.expression (.alternatives extend.block (.refl _))
  statements := .bind (.refl _) fun here => by
    split
    · exact .refl _
    · exact .bind extend.statement fun _ => .bind extend.statements fun _ => .refl _
  program := .bind (.refl _) fun _ => .bind extend.statements fun _ => .refl _

/-- Rules have the outcomes that they have to a lesser depth. -/
theorem rules_extend (source : Nat → Token) (depth : Nat) :
    (rules source (depth + 1)).Extend (rules source depth) := by
  induction depth with
  | zero => constructor <;> intros <;> exact .endless _
  | succ depth inductionHypothesis => exact inductionHypothesis.calling

/-- A source that parsing comes to an end on, and how it ends. -/
def RunsTo (source : Nat → Token) (ended : Outcome Node) : Prop :=
  ∃ depth, run source depth = some ended

/-- Parsing ends as it does to a lesser depth. -/
theorem run_of_le {depth deeper : Nat} (le : depth ≤ deeper) {ended : Outcome Node}
    (ran : run source depth = some ended) : run source deeper = some ended := by
  induction le with
  | refl => exact ran
  | @step deeper _ inductionHypothesis =>
      have extend := rules_extend source deeper
      have rootExtends : Extends (root source (rules source (deeper + 1)))
          (root source (rules source deeper)) :=
        .bind (.refl _) fun _ => .bind extend.program fun _ => .refl _
      exact Extends.bind (.refl _) (fun _ => rootExtends) fresh ended inductionHypothesis

/-- Parsing ends in one way only. -/
theorem RunsTo.unique {ended other : Outcome Node} (runs : RunsTo source ended)
    (runsOther : RunsTo source other) : ended = other := by
  obtain ⟨depth, ran⟩ := runs
  obtain ⟨otherDepth, ranOther⟩ := runsOther
  have same := run_of_le (Nat.le_max_left depth otherDepth) ran
  rw [run_of_le (Nat.le_max_right depth otherDepth) ranOther] at same
  exact (Option.some.inj same).symm

end

end Parser

end BlockData
