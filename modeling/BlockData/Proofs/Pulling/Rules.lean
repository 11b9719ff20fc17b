import BlockData.Proofs.Pulling.Agreement
import Mathlib

/-!
# What all rules have in common

A rule that declines leaves the parser as it is. A rule that gives a node has consumed the
tokens from the lookahead on up to some place, and every block that it has opened is closed
again. The rules of `BlockData.Parsing` keep this contract as well: on what a parser has before
it they end as the rules of the parser do.
-/

namespace BlockData.Parser

open Parsing (State Taken)

/-- The rules of the grammar that give a node. -/
inductive Rule where
  | value
  | terminator
  | blockIn (delimiter : Delimiter)
  | block
  | blank
  | expression
  | parameter
  | statement
  | paramlist
  | program

namespace Rule

/-- A rule on a source, with calls to a certain depth. A rule that gives a node whenever it does
not fail does not decline. -/
def step (source : Nat → Token) (depth : Nat) : Rule → Step (Option Node)
  | value => Parser.value source
  | terminator => Parser.terminator source
  | blockIn delimiter => (rules source depth).blockIn delimiter
  | block => (rules source depth).block
  | blank => Parser.blank source
  | expression => (rules source depth).expression
  | parameter => do return some (← (rules source depth).parameter)
  | statement => do return some (← (rules source depth).statement)
  | paramlist => do return some (← (rules source depth).paramlist)
  | program => do return some (← (rules source depth).program)

/-- A node and the state behind it. -/
def behind? {bound : Nat} (taken : Option (Taken Node bound)) : Option (Node × State) :=
  taken.map fun taken => (taken.result, taken.state)

/-- A rule on a state, with the state behind the node that it gives. -/
def onState (state : State) : Rule → Except ParseError (Option (Node × State))
  | value => do return behind? (← Parsing.value state)
  | terminator => do return behind? (← Parsing.terminator state)
  | blockIn delimiter => do return behind? (← Parsing.blockIn delimiter state)
  | block => do return behind? (← Parsing.block state)
  | blank => do return behind? (← Parsing.blank state)
  | expression => do return behind? (← Parsing.expression state)
  | parameter => do
      let taken ← Parsing.parameter state
      return some (taken.result, taken.state)
  | statement => do
      let taken ← Parsing.statement state
      return some (taken.result, taken.state)
  | paramlist => do
      let reached ← Parsing.paramlist state
      return some (reached.result, reached.state)
  | program => do
      let reached ← Parsing.program state
      return some (reached.result, reached.state)

/-- The kinds in front of which a rule stops that repeats another one. -/
def stops? : Rule → Option (Kind → Bool)
  | paramlist => some Kind.isTerminator
  | program => some Kind.endsProgram
  | _ => none

/-- What a rule promises when it does not fail. -/
def Contract (source : Nat → Token) (before : Parser) (rule : Rule) (result : Option Node)
    (after : Parser) : Prop :=
  match rule.stops? with
  | none => MayTake source before result after
  | some stops => result.isSome = true ∧ TakesUpTo source stops before after

/-- A rule that declines leaves the parser as it is, and else it ends as on a state. -/
def IsAlike (source : Nat → Token) (before : Parser) :
    Option (Node × State) → Option Node → Parser → Prop
  | none, result, after => result = none ∧ after = before
  | some (node, behind), result, after => result = some node ∧ Sees source after behind

section

variable {source : Nat → Token} {depth : Nat} {before after : Parser} {state : State}

/-- Every rule keeps its promise. -/
theorem step_keeps (rule : Rule) :
    Keeps source before before (rule.step source depth) (rule.Contract source before) := by
  have keep := rules_keep source depth
  cases rule with
  | value => exact leaf_keeps ⟨rfl, rfl⟩
  | terminator => exact leaf_keeps ⟨rfl, rfl⟩
  | blockIn delimiter => exact keep.blockIn delimiter before
  | block => exact keep.block before
  | blank => exact blank_keeps
  | expression => exact keep.expression before
  | parameter => exact Keeps.bind (keep.parameter before) fun _ _ taken => .pure taken
  | statement => exact Keeps.bind (keep.statement before) fun _ _ taken => .pure taken
  | paramlist => exact Keeps.bind (keep.paramlist before) fun _ _ taken => .pure ⟨rfl, taken⟩
  | program => exact Keeps.bind (keep.program before) fun _ _ taken => .pure ⟨rfl, taken⟩

/-- A rule that declines leaves the parser as it is. -/
theorem eq_of_declined (rule : Rule)
    (declined : before.outcome (rule.step source depth) = some (.ok none, after)) :
    after = before := by
  have kept : rule.Contract source before none after := rule.step_keeps _ declined
  rw [Contract] at kept
  split at kept
  · exact kept
  · cases kept.1

/-- A rule that gives a node has consumed tokens. -/
theorem consumes_of_taken (rule : Rule) {node : Node}
    (taken : before.outcome (rule.step source depth) = some (.ok (some node), after)) :
    after.openBlocks = before.openBlocks ∧ ∃ count, Consumes source before count after ∧
      (rule.stops? = none → 0 < count) ∧
      ∀ stops, rule.stops? = some stops → stops after.lookahead.kind = true ∧
        (count = 0 ↔ stops before.lookahead.kind = true) := by
  have kept : rule.Contract source before (some node) after := rule.step_keeps _ taken
  rw [Contract] at kept
  split at kept
  · rename_i noStops
    obtain ⟨sameBlocks, count, positive, consumed⟩ := kept
    refine ⟨sameBlocks, count, consumed, fun _ => positive, fun stops isStops => ?_⟩
    rw [noStops] at isStops
    cases isStops
  · rename_i stops isStops
    obtain ⟨-, sameBlocks, isStopped, count, consumed, atOnce⟩ := kept
    refine ⟨sameBlocks, count, consumed, fun noStops => ?_, fun others isOthers => ?_⟩
    · rw [isStops] at noStops
      cases noStops
    · obtain rfl := Option.some.inj (isStops.symm.trans isOthers)
      exact ⟨isStopped, atOnce⟩

/-- A rule that may decline mirrors what it does on a state. -/
theorem mirrors_of_mayBeTaken {bound : Nat} {step : Steps (Option Node)}
    {outcome : Except ParseError (Option (Taken Node bound))}
    (mirrors : Mirrors source before step (MayBeTaken source before) outcome) :
    Mirrors source before step (IsAlike source before) (do return behind? (← outcome)) := by
  cases outcome with
  | error error => exact mirrors
  | ok given =>
      obtain ⟨result, after, isTaken, ends⟩ := mirrors
      refine ⟨result, after, ?_, ends⟩
      cases given <;> exact isTaken

/-- On a state that a parser sees, every rule ends as on the parser. -/
theorem step_mirrors (rule : Rule) (sees : Sees source before state) :
    Mirrors source before (fun other depth => rule.step other depth) (IsAlike source before)
      (rule.onState state) := by
  have statementsMirror inside := (statements_and_parameters_mirror source inside).1
  have parametersMirror inside := (statements_and_parameters_mirror source inside).2
  cases rule with
  | value => exact mirrors_of_mayBeTaken (value_mirrors sees)
  | terminator => exact mirrors_of_mayBeTaken (terminator_mirrors sees)
  | blockIn delimiter =>
      exact mirrors_of_mayBeTaken
        (blockIn_mirrors delimiter (fun inside _ => statementsMirror inside) sees)
  | block =>
      exact mirrors_of_mayBeTaken (block_mirrors (fun inside _ => statementsMirror inside) sees)
  | blank => exact mirrors_of_mayBeTaken (blank_mirrors sees)
  | expression =>
      exact mirrors_of_mayBeTaken
        (expression_mirrors (fun inside _ => parametersMirror inside) sees)
  | parameter =>
      refine .bind (parameter_mirrors (fun inside _ => statementsMirror inside) sees) ?_
      rintro taken _ after ⟨rfl, seesAfter⟩
      exact .pure ⟨rfl, seesAfter⟩
  | statement =>
      refine .bind
        (statement_mirrors (fun inside _ => statements_and_parameters_mirror source inside) sees) ?_
      rintro taken _ after ⟨rfl, seesAfter⟩
      exact .pure ⟨rfl, seesAfter⟩
  | paramlist =>
      refine .bind (paramlist_mirrors (parametersMirror state) sees) ?_
      rintro reached _ after ⟨rfl, seesAfter⟩
      exact .pure ⟨rfl, seesAfter⟩
  | program =>
      refine .bind (program_mirrors (statementsMirror state) sees) ?_
      rintro reached _ after ⟨rfl, seesAfter⟩
      exact .pure ⟨rfl, seesAfter⟩

end

end Rule

section

variable {source : Nat → Token} {depth : Nat} {before middle after : Parser}

/-- Where parameters end, the terminator that is expected can only be refused for what stands
behind it. -/
theorem lexical_of_expect_terminator {params : Node} {error : ParseError}
    (isParamlist : before.outcome (rules source depth).paramlist = some (.ok params, middle))
    (expected : middle.outcome (expect source terminatorKinds) = some (.error error, after)) :
    after.lookahead.isFail = true ∧ error = .lexical (.ofToken after.lookahead) := by
  obtain ⟨-, isTerminator, -⟩ := (rules_keep source depth).paramlist before _ isParamlist
  have isExpected : terminatorKinds.contains middle.lookahead.kind = true :=
    List.contains_iff_mem.mpr (Parsing.mem_terminatorKinds isTerminator)
  rw [outcome_expect, if_pos isExpected, afterNext] at expected
  split at expected
  · rename_i malformed
    obtain ⟨sameError, rfl⟩ := Prod.mk.inj (Option.some.inj expected)
    exact ⟨malformed, (Except.error.inj sameError).symm⟩
  · cases expected

/-- Every rule keeps one contract. If it declines, it has changed nothing. If it gives a node,
the open blocks are as before, and the tokens from the lookahead on were consumed up to some
place. A rule that repeats another one ends in front of a kind that it stops at, and consumes
nothing exactly if it starts there; every other rule consumes a token at least. So a terminator
that is expected behind parameters is refused only for a malformed token behind it. On what a
state lists, all of this holds of the rules on states, which end in the same way. -/
theorem rules_keep_contract (source : Nat → Token) (before : Parser) :
    (∀ (rule : Rule) (depth : Nat) (after : Parser),
      before.outcome (rule.step source depth) = some (.ok none, after) → after = before) ∧
    (∀ (rule : Rule) (depth : Nat) (node : Node) (after : Parser),
      before.outcome (rule.step source depth) = some (.ok (some node), after) →
        after.openBlocks = before.openBlocks ∧ ∃ count, Consumes source before count after ∧
          (rule.stops? = none → 0 < count) ∧
          ∀ stops, rule.stops? = some stops → stops after.lookahead.kind = true ∧
            (count = 0 ↔ stops before.lookahead.kind = true)) ∧
    (∀ (depth : Nat) (params : Node) (middle after : Parser) (error : ParseError),
      before.outcome (rules source depth).paramlist = some (.ok params, middle) →
        middle.outcome (expect source terminatorKinds) = some (.error error, after) →
          after.lookahead.isFail = true ∧ error = .lexical (.ofToken after.lookahead)) ∧
    ∀ (rule : Rule) (state : State), Sees source before state →
      Mirrors source before (fun other depth => rule.step other depth) (Rule.IsAlike source before)
        (rule.onState state) := by
  refine ⟨fun rule depth after declined => ?_, fun rule depth node after taken => ?_,
    fun depth params middle after error isParamlist expected => ?_, fun rule state sees => ?_⟩
  · exact rule.eq_of_declined declined
  · exact rule.consumes_of_taken taken
  · exact lexical_of_expect_terminator isParamlist expected
  · exact rule.step_mirrors sees

end

/-- In front of an empty block, a terminator and a malformed token, no value is there, a block is
consumed up to the terminator, and parameters are as well, behind which the terminator is refused
for the malformed token. -/
theorem rules_keep_contract_before_malformed :
    let source : Nat → Token := fun index =>
      [Nesting.bareToken (.opening .paren), Nesting.bareToken (.closing .paren),
        Nesting.bareToken (.terminator .semicolon), Nesting.bareToken .fail].getD index
        (Nesting.bareToken .eof)
    let before : Parser := ⟨[source 0], source 0, [.curly]⟩
    let behind : Parser := ⟨[source 0, source 1, source 2], source 2, [.curly]⟩
    let state : State := ⟨(List.range 4).map source, (source 4).span, [.curly]⟩
    (∃ after, before.outcome (Rule.value.step source 0) = some (.ok none, after) ∧
      after = before) ∧
    (∃ node, before.outcome (Rule.block.step source 4) = some (.ok (some node), behind) ∧
      ∃ count, 0 < count ∧ Consumes source before count behind) ∧
    (∃ params error after, before.outcome (rules source 7).paramlist = some (.ok params, behind) ∧
      behind.outcome (expect source terminatorKinds) = some (.error error, after) ∧
      error = .lexical (.ofToken after.lookahead)) ∧
    Sees source before state ∧
    Mirrors source before (fun other depth => Rule.block.step other depth)
      (Rule.IsAlike source before) (Rule.block.onState state) := by
  intro source before behind state
  obtain ⟨declines, takes, expects, mirrors⟩ := rules_keep_contract source before
  let node : Node := .node (.block .paren) none ⟨0, 0, 1, 1⟩ []
  have isDeclined : before.outcome (Rule.value.step source 0) = some (.ok none, before) := by cbv
  have isBlock : before.outcome (Rule.block.step source 4) = some (.ok (some node), behind) := by
    cbv
  have isParamlist : before.outcome (rules source 7).paramlist =
      some (.ok (.node .paramlist none ⟨0, 0, 1, 1⟩ [node]), behind) := by
    cbv
  have isExpected : behind.outcome (expect source terminatorKinds) =
      some (.error (.lexical ⟨"Lex error", 1, 1⟩), behind.next source) := by
    cbv
  obtain ⟨-, count, consumed, positive, -⟩ := takes .block _ _ _ isBlock
  have sees : Sees source before state := by
    refine ⟨fun index => ?_, rfl⟩
    rcases index with _ | _ | _ | _ | index <;> try rfl
    exact congrArg source (Nat.add_comm 1 _)
  exact ⟨⟨_, isDeclined, declines .value _ _ isDeclined⟩,
    ⟨node, isBlock, count, positive rfl, consumed⟩,
    ⟨_, _, _, isParamlist, isExpected, (expects _ _ _ _ _ isParamlist isExpected).2⟩,
    sees, mirrors .block state sees⟩

end BlockData.Parser
