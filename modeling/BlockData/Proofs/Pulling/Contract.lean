import BlockData.Proofs.Parsing.Decisions
import BlockData.Proofs.Pulling.Parser
import Mathlib

/-!
# Contracts of pulling rules

What a rule promises wherever it starts, if it comes to an end: it consumes tokens one after the
other from the lookahead on, and either it gives a result and has closed the blocks that it has
opened, or it fails at its lookahead. `Keeps` states such a promise and `Keeps.bind` puts promises
together. Rules keep theirs if the rules that they call do (`Rules.Keep.calling`), so they keep
them to any depth of calls (`rules_keep`).
-/

namespace BlockData.Parser

/-- The tokens from the lookahead on. -/
def ahead (source : Nat → Token) (parser : Parser) : Nat → Token
  | 0 => parser.lookahead
  | index + 1 => source (parser.pulled.length + index)

/-- A parser stands behind some tokens, the first of which was the lookahead, and for each of
them one token was pulled. None of them was the end of input or malformed. -/
structure Consumes (source : Nat → Token) (before : Parser) (count : Nat) (after : Parser) :
    Prop where
  pulled : after.pulled = before.pulled ++
    (List.range count).map fun index => source (before.pulled.length + index)
  lookahead : after.lookahead = before.ahead source count
  clean : ∀ index < count,
    (before.ahead source index).kind ≠ .eof ∧ (before.ahead source index).kind ≠ .fail

/-- A parser has failed behind some tokens, at its lookahead. -/
def FailsBehind (source : Nat → Token) (before : Parser) (error : ParseError)
    (after : Parser) : Prop :=
  ∃ count, Consumes source before count after ∧ error.IsAbout after.lookahead

/-- Tokens were consumed, and no block is open that was not open before. -/
def Takes (source : Nat → Token) (before after : Parser) : Prop :=
  after.openBlocks = before.openBlocks ∧ ∃ count, 0 < count ∧ Consumes source before count after

/-- Tokens were consumed for a node, or nothing has changed. -/
def MayTake (source : Nat → Token) (before : Parser) : Option Node → Parser → Prop
  | none, after => after = before
  | some _, after => Takes source before after

/-- Tokens were consumed up to one of some kinds, none of them if the lookahead was of these kinds,
and no block is open that was not open before. -/
def TakesUpTo (source : Nat → Token) (ends : Kind → Bool) (before after : Parser) : Prop :=
  after.openBlocks = before.openBlocks ∧ ends after.lookahead.kind = true ∧
    ∃ count, Consumes source before count after ∧
      (count = 0 ↔ ends before.lookahead.kind = true)

/-- An outcome is a result with a property, or a failure behind tokens from some place on. -/
def Meets {α : Type} (source : Nat → Token) (origin : Parser) (result : α → Parser → Prop) :
    Outcome α → Prop
  | (.ok value, after) => result value after
  | (.error error, after) => FailsBehind source origin error after

/-- Whenever a step comes to an end, its outcome is as promised. -/
def Keeps {α : Type} (source : Nat → Token) (origin before : Parser) (step : Step α)
    (result : α → Parser → Prop) : Prop :=
  ∀ ended, before.outcome step = some ended → Meets source origin result ended

section

variable {α β : Type} {source : Nat → Token} {origin before middle after : Parser}

/-- The tokens behind some that were consumed. -/
theorem Consumes.ahead_eq {count : Nat} (consumed : Consumes source before count after)
    (index : Nat) : after.ahead source index = before.ahead source (count + index) := by
  cases index with
  | zero => exact consumed.lookahead
  | succ index =>
      change source (after.pulled.length + index) =
        source (before.pulled.length + (count + index))
      rw [consumed.pulled, List.length_append, List.length_map, List.length_range, Nat.add_assoc]

/-- Consuming nothing leaves the parser as it is. -/
theorem Consumes.refl (source : Nat → Token) (parser : Parser) :
    Consumes source parser 0 parser where
  pulled := by simp
  lookahead := rfl
  clean := fun index inside => absurd inside (Nat.not_lt_zero index)

/-- Tokens are consumed one part after the other. -/
theorem Consumes.trans {count more : Nat} (first : Consumes source before count middle)
    (second : Consumes source middle more after) :
    Consumes source before (count + more) after where
  pulled := by
    simp only [second.pulled, first.pulled, List.append_assoc, List.length_append,
      List.length_map, List.length_range, List.range_add, List.map_append, List.map_map,
      Nat.add_assoc, Function.comp_def]
  lookahead := by rw [second.lookahead, first.ahead_eq]
  clean := fun index inside => by
    rcases Nat.lt_or_ge index count with isFirst | isSecond
    · exact first.clean index isFirst
    · obtain ⟨further, rfl⟩ := Nat.exists_eq_add_of_le isSecond
      rw [← first.ahead_eq]
      exact second.clean further (by omega)

/-- Opening a block consumes nothing. -/
theorem Consumes.enter {count : Nat} (consumed : Consumes source before count after)
    (delimiter : Delimiter) : Consumes source before count (after.enter delimiter) :=
  ⟨consumed.pulled, consumed.lookahead, consumed.clean⟩

/-- Closing a block consumes nothing. -/
theorem Consumes.leave {count : Nat} (consumed : Consumes source before count after) :
    Consumes source before count after.leave :=
  ⟨consumed.pulled, consumed.lookahead, consumed.clean⟩

/-- Pulling a token consumes the lookahead. -/
theorem Consumes.next (source : Nat → Token) {parser : Parser}
    (clean : parser.lookahead.kind ≠ .eof ∧ parser.lookahead.kind ≠ .fail) :
    Consumes source parser 1 (parser.next source) where
  pulled := rfl
  lookahead := rfl
  clean := fun index inside => by
    obtain rfl := Nat.lt_one_iff.mp inside
    exact clean

/-- A failure from some place on is one from an earlier place on. -/
theorem FailsBehind.earlier {count : Nat} {error : ParseError}
    (consumed : Consumes source origin count before)
    (fails : FailsBehind source before error after) : FailsBehind source origin error after := by
  obtain ⟨more, further, isAbout⟩ := fails
  exact ⟨count + more, consumed.trans further, isAbout⟩

/-- A promise from some place on is one from an earlier place on. -/
theorem Keeps.earlier {count : Nat} {step : Step α} {result : α → Parser → Prop}
    (consumed : Consumes source origin count before)
    (keeps : Keeps source before before step result) :
    Keeps source origin before step result := by
  rintro ⟨_ | value, after⟩ ends
  · exact FailsBehind.earlier consumed (keeps _ ends)
  · exact keeps _ ends

/-- A step after another one keeps its promise if both keep theirs. -/
theorem Keeps.bind {step : Step α} {others : α → Step β} {between : α → Parser → Prop}
    {result : β → Parser → Prop} (first : Keeps source origin before step between)
    (rest : ∀ value middle, between value middle →
      Keeps source origin middle (others value) result) :
    Keeps source origin before (step >>= others) result := by
  intro ended whole
  obtain ⟨value, middle, isFirst, isRest⟩ | ⟨error, middle, isFirst, rfl⟩ :=
    outcome_bind_eq_some.mp whole
  · exact rest value middle (first _ isFirst) ended isRest
  · exact first _ isFirst

/-- Giving a result keeps the promise that it has. -/
theorem Keeps.pure {value : α} {result : α → Parser → Prop} (holds : result value before) :
    Keeps source origin before (Pure.pure value) result := by
  intro ended isPure
  obtain rfl := Option.some.inj isPure
  exact holds

/-- Going on with a look at the parser. -/
theorem Keeps.get {others : Parser → Step α} {result : α → Parser → Prop}
    (keeps : Keeps source origin before (others before) result) :
    Keeps source origin before (MonadState.get >>= others) result :=
  keeps

/-- Going on with a changed parser. -/
theorem Keeps.modify {change : Parser → Parser} {others : PUnit → Step α}
    {result : α → Parser → Prop}
    (keeps : Keeps source origin (change before) (others ⟨⟩) result) :
    Keeps source origin before
      (MonadState.modifyGet (fun parser => (⟨⟩, change parser)) >>= others) result :=
  keeps

/-- Refusing the lookahead keeps any promise. -/
theorem Keeps.refuse {count : Nat} {wanted : Wanted} {result : α → Parser → Prop}
    (consumed : Consumes source origin count before) :
    Keeps source origin before (Parser.refuse wanted) result := by
  intro ended isRefused
  obtain rfl := Option.some.inj isRefused
  exact ⟨count, consumed, .unexpected wanted⟩

/-- In front of a token of the kinds, nothing is consumed up to it. -/
theorem TakesUpTo.nothing {ends : Kind → Bool} (isEnd : ends before.lookahead.kind = true) :
    TakesUpTo source ends before before :=
  ⟨rfl, isEnd, 0, .refl source before, by simp [isEnd]⟩

/-- In front of other tokens, some are consumed first. -/
theorem Takes.takesUpTo {ends : Kind → Bool} (taken : Takes source before middle)
    (goesOn : ¬ends before.lookahead.kind = true) (rest : TakesUpTo source ends middle after) :
    TakesUpTo source ends before after := by
  obtain ⟨sameBlocks, count, positive, consumed⟩ := taken
  obtain ⟨restBlocks, isEnd, more, consumedRest, -⟩ := rest
  refine ⟨restBlocks.trans sameBlocks, isEnd, count + more, consumed.trans consumedRest, ?_⟩
  exact iff_of_false (by omega) goesOn

/-- A promise from behind consumed tokens on is one from the first of them on. -/
theorem Takes.keeps {step : Step α} {result : α → Parser → Prop}
    (taken : Takes source before middle) (keeps : Keeps source middle middle step result) :
    Keeps source before middle step result := by
  obtain ⟨-, count, -, consumed⟩ := taken
  exact keeps.earlier consumed

/-- Tokens were consumed if some of them were, whatever was consumed behind them. -/
theorem Takes.trans {ends : Kind → Bool} (taken : Takes source before middle)
    (rest : TakesUpTo source ends middle after) : Takes source before after := by
  obtain ⟨sameBlocks, count, positive, consumed⟩ := taken
  obtain ⟨restBlocks, -, more, consumedRest, -⟩ := rest
  exact ⟨restBlocks.trans sameBlocks, count + more, by omega, consumed.trans consumedRest⟩

/-- Tokens were consumed if some of them were, with one more behind them. -/
theorem Takes.consume (taken : Takes source before middle)
    (last : after.openBlocks = middle.openBlocks ∧ Consumes source middle 1 after) :
    Takes source before after := by
  obtain ⟨sameBlocks, count, -, consumed⟩ := taken
  exact ⟨last.1.trans sameBlocks, count + 1, Nat.succ_pos count, consumed.trans last.2⟩

/-- A rule that may decline, with what is done then and what is done else. -/
theorem Keeps.alternatives {step : Step (Option Node)} {others : Option Node → Step β}
    {result : β → Parser → Prop}
    (first : Keeps source before before step (MayTake source before))
    (declined : Keeps source before before (others none) result)
    (taken : ∀ node after, Takes source before after →
      Keeps source before after (others (some node)) result) :
    Keeps source before before (step >>= others) result := by
  refine Keeps.bind first ?_
  rintro (_ | node) after isTaken
  · subst isTaken
    exact declined
  · exact taken node after isTaken

/-- The end of input and malformed tokens are not of the kinds that are consumed. -/
def IsClean (wanted : Kind → Bool) : Prop :=
  wanted .eof = false ∧ wanted .fail = false

/-- Accepting consumes one token or changes nothing. -/
theorem accept_keeps {wanted : Kind → Bool} (clean : IsClean wanted) :
    Keeps source before before (accept source wanted) fun
      | none, after => after = before
      | some _, after =>
          after.openBlocks = before.openBlocks ∧ Consumes source before 1 after := by
  intro ended accepted
  rw [outcome_accept] at accepted
  split at accepted
  · rename_i isWanted
    have consumed : Consumes source before 1 (before.next source) := by
      refine .next source ⟨fun isEnd => ?_, fun isFail => ?_⟩
      · simp [isEnd, clean.1] at isWanted
      · simp [isFail, clean.2] at isWanted
    obtain rfl := Option.some.inj accepted
    rw [afterNext]
    split
    · rename_i malformed
      exact ⟨1, consumed, .lexical malformed⟩
    · exact ⟨rfl, consumed⟩
  · obtain rfl := Option.some.inj accepted
    rfl

/-- Expecting consumes one token. -/
theorem expect_keeps {kinds : List Kind} (clean : IsClean kinds.contains) :
    Keeps source before before (expect source kinds) fun _ after =>
      after.openBlocks = before.openBlocks ∧ Consumes source before 1 after := by
  refine Keeps.bind (accept_keeps clean) ?_
  rintro (_ | token) middle accepted
  · subst accepted
    exact .refuse (.refl source middle)
  · exact .pure accepted

/-- A leaf is one token. -/
theorem leaf_keeps {wanted : Kind → Bool} (clean : IsClean wanted) :
    Keeps source before before (leaf source wanted) (MayTake source before) := by
  refine Keeps.bind (accept_keeps clean) ?_
  rintro (_ | token) middle accepted
  · exact .pure accepted
  · exact .pure ⟨accepted.1, 1, Nat.one_pos, accepted.2⟩

/-- A blank statement is one token. -/
theorem blank_keeps :
    Keeps source before before (blank source) (MayTake source before) := by
  refine Keeps.bind (leaf_keeps ⟨rfl, rfl⟩) ?_
  rintro (_ | node) middle taken
  · exact .pure taken
  · exact .pure taken

end

/-- Each of the rules that call each other keeps its promise wherever it starts. -/
structure Rules.Keep (source : Nat → Token) (rules : Rules) : Prop where
  blockIn : ∀ delimiter before,
    Keeps source before before (rules.blockIn delimiter) (MayTake source before)
  block : ∀ before, Keeps source before before rules.block (MayTake source before)
  parameter : ∀ before,
    Keeps source before before rules.parameter fun _ => Takes source before
  parameters : ∀ before,
    Keeps source before before rules.parameters fun _ => TakesUpTo source Kind.isTerminator before
  paramlist : ∀ before,
    Keeps source before before rules.paramlist fun _ => TakesUpTo source Kind.isTerminator before
  expression : ∀ before, Keeps source before before rules.expression (MayTake source before)
  statement : ∀ before,
    Keeps source before before rules.statement fun _ => Takes source before
  statements : ∀ before,
    Keeps source before before rules.statements fun _ => TakesUpTo source Kind.endsProgram before
  program : ∀ before,
    Keeps source before before rules.program fun _ => TakesUpTo source Kind.endsProgram before

section

variable {source : Nat → Token} {called : Rules} (keep : called.Keep source) (before : Parser)

include keep

/-- A block in one style is closed as it was opened. -/
theorem blockIn_keeps (delimiter : Delimiter) :
    Keeps source before before (blockIn source called delimiter) (MayTake source before) := by
  refine Keeps.bind (accept_keeps ⟨rfl, rfl⟩) ?_
  rintro (_ | opened) middle accepted
  · exact .pure accepted
  obtain ⟨sameBlocks, consumed⟩ := accepted
  refine Keeps.modify (Keeps.bind (.earlier (consumed.enter delimiter) (keep.program _)) ?_)
  rintro inner reached ⟨innerBlocks, -, count, consumedInner, -⟩
  have consumedBoth := (consumed.enter delimiter).trans consumedInner
  refine Keeps.modify (Keeps.bind (.earlier consumedBoth.leave (expect_keeps ⟨rfl, rfl⟩)) ?_)
  rintro closed after ⟨closedBlocks, consumedClosing⟩
  refine .pure ⟨?_, _, Nat.succ_pos _, consumedBoth.leave.trans consumedClosing⟩
  rw [closedBlocks, leave, innerBlocks, enter, List.tail_cons, sameBlocks]

/-- A block is in one of the three styles. -/
theorem block_keeps : Keeps source before before (block called) (MayTake source before) := by
  refine Keeps.alternatives (keep.blockIn .curly before) ?_ fun _ _ taken => .pure taken
  refine .alternatives (keep.blockIn .paren before) ?_ fun _ _ taken => .pure taken
  exact keep.blockIn .bracket before

/-- A parameter is a value or a block. -/
theorem parameter_keeps :
    Keeps source before before (parameter source called) fun _ => Takes source before := by
  refine Keeps.alternatives (leaf_keeps ⟨rfl, rfl⟩) ?_ fun _ _ taken => .pure taken
  refine .alternatives (keep.block before) ?_ fun _ _ taken => .pure taken
  exact .refuse (.refl source before)

/-- Parameters are there up to a terminator. -/
theorem parameters_keeps : Keeps source before before (parameters called)
    fun _ => TakesUpTo source Kind.isTerminator before := by
  refine Keeps.get ?_
  split
  · rename_i ends
    exact .pure (.nothing ends)
  · rename_i goesOn
    split
    · exact .refuse (.refl source before)
    · refine Keeps.bind (keep.parameter before) fun first middle taken => ?_
      refine Keeps.bind (taken.keeps (keep.parameters middle)) fun others after rest => ?_
      exact .pure (taken.takesUpTo goesOn rest)

/-- A list of parameters is its parameters. -/
theorem paramlist_keeps : Keeps source before before (paramlist called)
    fun _ => TakesUpTo source Kind.isTerminator before :=
  Keeps.get (Keeps.bind (keep.parameters before) fun _ _ taken => .pure taken)

/-- An expression is a value with its parameters and a terminator. -/
theorem expression_keeps :
    Keeps source before before (expression source called) (MayTake source before) := by
  refine Keeps.alternatives (leaf_keeps ⟨rfl, rfl⟩) (.pure rfl) fun head middle taken => ?_
  refine Keeps.bind (taken.keeps (keep.paramlist middle)) fun params reached rest => ?_
  have takenBoth := taken.trans rest
  refine Keeps.bind (takenBoth.keeps (expect_keeps ⟨rfl, rfl⟩)) fun _ after ended => ?_
  exact .pure (takenBoth.consume ended)

/-- A statement is an expression, a block, a blank statement or a comment. -/
theorem statement_keeps :
    Keeps source before before (statement source called) fun _ => Takes source before := by
  refine Keeps.alternatives (keep.expression before) ?_ fun _ _ taken => .pure taken
  refine .alternatives (keep.block before) ?_ fun _ _ taken => .pure taken
  refine .alternatives blank_keeps ?_ fun _ _ taken => .pure taken
  refine .alternatives (leaf_keeps ⟨rfl, rfl⟩) ?_ fun _ _ taken => .pure taken
  exact .refuse (.refl source before)

/-- Statements are there up to a closing bracket or the end of input. -/
theorem statements_keeps : Keeps source before before (statements called)
    fun _ => TakesUpTo source Kind.endsProgram before := by
  refine Keeps.get ?_
  split
  · rename_i ends
    exact .pure (.nothing ends)
  · rename_i goesOn
    refine Keeps.bind (keep.statement before) fun first middle taken => ?_
    refine Keeps.bind (taken.keeps (keep.statements middle)) fun others after rest => ?_
    exact .pure (taken.takesUpTo goesOn rest)

/-- A program is its statements. -/
theorem program_keeps : Keeps source before before (program called)
    fun _ => TakesUpTo source Kind.endsProgram before :=
  Keeps.get (Keeps.bind (keep.statements before) fun _ _ taken => .pure taken)

omit before in
/-- Rules keep their promises if the rules that they call do. -/
theorem Rules.Keep.calling : (called.calling source).Keep source where
  blockIn := fun delimiter before => blockIn_keeps keep before delimiter
  block := block_keeps keep
  parameter := parameter_keeps keep
  parameters := parameters_keeps keep
  paramlist := paramlist_keeps keep
  expression := expression_keeps keep
  statement := statement_keeps keep
  statements := statements_keeps keep
  program := program_keeps keep

end

/-- What has no outcome keeps any promise. -/
theorem Keeps.endless {α : Type} {source : Nat → Token} {origin before : Parser}
    {result : α → Parser → Prop} : Keeps source origin before endless result :=
  fun _ ends => nomatch ends

/-- The rules keep their promises to any depth of calls. -/
theorem rules_keep (source : Nat → Token) (depth : Nat) : (rules source depth).Keep source := by
  induction depth with
  | zero => constructor <;> intros <;> exact .endless
  | succ depth inductionHypothesis => exact inductionHypothesis.calling

end BlockData.Parser
