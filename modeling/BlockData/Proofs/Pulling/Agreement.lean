import BlockData.Proofs.Parsing.Stopping
import BlockData.Proofs.Pulling.Contract
import Mathlib

/-!
# Pulled tokens and listed tokens

Pulling the tokens one after the other comes to the same as having them all at once. A state
lists the tokens that a parser will find when it pulls them (`Sees`), and on the one the rules
of the grammar end as on the other: with the same error, or with the same node in front of the
same tokens (`Mirrors`). So parsing a stream is running the parser on its tokens
(`exists_runsTo`). The states have an end, hence the rules have one on what a parser sees. An
outcome is settled by the tokens that were pulled (`Ends`): where a source goes on in another
way, or the calls may be nested deeper, it is the same.
-/

namespace BlockData

/-- Expecting a token is accepting it, or else refusing what is there. -/
theorem Parsing.expect_eq_bind (kinds : List Kind) (state : Parsing.State) :
    Parsing.expect kinds state = Parsing.accept kinds.contains state >>= fun
      | some taken => .ok taken
      | none => .error (state.refuse (.oneOf kinds)) := by
  rw [Parsing.expect]
  cases Parsing.accept kinds.contains state with
  | error error => rfl
  | ok accepted => cases accepted <;> rfl

namespace Parser

open Parsing (State)

/-- A parser has before it what a state has. -/
structure Sees (source : Nat → Token) (parser : Parser) (state : State) : Prop where
  ahead : ∀ index,
    parser.ahead source index = state.pending.getD index (.atEnd state.finalSpan)
  openBlocks : parser.openBlocks = state.openBlocks

/-- A step with calls to any depth, on any source. -/
abbrev Steps (α : Type) : Type :=
  (Nat → Token) → Nat → Step α

/-- A step ends in some way to all depths from some one on, on every source that has the same
tokens up to the last one that was pulled. -/
def Ends {α : Type} (source : Nat → Token) (before : Parser) (step : Steps α)
    (ended : Outcome α) : Prop :=
  before.pulled.length ≤ ended.2.pulled.length ∧ ∃ enough, ∀ depth ≥ enough,
    ∀ other, (∀ index < ended.2.pulled.length, other index = source index) →
      before.outcome (step other depth) = some ended

/-- A step ends as it is given: with the same error, or with a result that is related. -/
def Mirrors {α β : Type} (source : Nat → Token) (before : Parser) (step : Steps α)
    (same : β → α → Parser → Prop) : Except ParseError β → Prop
  | .ok given => ∃ result after, same given result after ∧
      Ends source before step (.ok result, after)
  | .error error => ∃ after, Ends source before step (.error error, after)

/-- A result is the one for which tokens were consumed, and the parser stands behind them. -/
def IsTaken {α : Type} {bound : Nat} (source : Nat → Token) (taken : Parsing.Taken α bound)
    (result : α) (after : Parser) : Prop :=
  result = taken.result ∧ Sees source after taken.state

/-- The same, where nothing was taken if there is no result. -/
def MayBeTaken {α : Type} {bound : Nat} (source : Nat → Token) (before : Parser) :
    Option (Parsing.Taken α bound) → Option α → Parser → Prop
  | none, result, after => result = none ∧ after = before
  | some taken, result, after => result = some taken.result ∧ Sees source after taken.state

/-- A result is the one for which tokens may have been consumed. -/
def IsReached {α : Type} {bound : Nat} (source : Nat → Token) (reached : Parsing.Reached α bound)
    (result : α) (after : Parser) : Prop :=
  result = reached.result ∧ Sees source after reached.state

section

variable {α β γ δ : Type} {source : Nat → Token} {before middle : Parser} {state : State}
  {step : Steps α} {others : (Nat → Token) → Nat → α → Step γ}

/-- What a parser and a state have before them starts with their lookahead. -/
theorem Sees.lookahead (sees : Sees source before state) :
    before.lookahead = state.lookahead := by
  have first : before.lookahead = _ := sees.ahead 0
  rw [first, State.lookahead]
  cases state.pending <;> rfl

/-- The lookaheads are of the same kind. -/
theorem Sees.kind_eq (sees : Sees source before state) :
    before.lookahead.kind = state.ahead :=
  congrArg Token.kind sees.lookahead

/-- The lookaheads are refused alike. -/
theorem Sees.refusal (sees : Sees source before state) (wanted : Wanted) :
    before.refusal wanted = state.refuse wanted := by
  rw [Parser.refusal, sees.lookahead, State.refuse, State.ahead]

/-- Inside of a block there is the same before both. -/
theorem Sees.enter (sees : Sees source before state) (delimiter : Delimiter) :
    Sees source (before.enter delimiter) (state.enter delimiter) where
  ahead := sees.ahead
  openBlocks := congrArg (delimiter :: ·) sees.openBlocks

/-- Behind the statements of a block there is the same before both. -/
theorem Sees.leave (sees : Sees source before state) :
    Sees source before.leave state.leave where
  ahead := sees.ahead
  openBlocks := congrArg List.tail sees.openBlocks

/-- Pulling a token leaves behind what was ahead of the parser first. -/
theorem ahead_next (source : Nat → Token) (parser : Parser) (index : Nat) :
    (parser.next source).ahead source index = parser.ahead source (index + 1) := by
  cases index with
  | zero => rfl
  | succ index =>
      change source ((parser.next source).pulled.length + index) =
        source (parser.pulled.length + (index + 1))
      rw [next, List.length_append, List.length_singleton, Nat.add_assoc, Nat.add_comm 1]

/-- Pulling a token is dropping the first one of those that are listed. -/
theorem Sees.next (sees : Sees source before state) :
    Sees source (before.next source) { state with pending := state.pending.tail } where
  ahead := fun index => by
    rw [ahead_next, sees.ahead]
    cases state.pending <;> rfl
  openBlocks := sees.openBlocks

/-- What does not depend on the source or the depth. -/
theorem Ends.of_outcome {step : Step α} {ended : Outcome α}
    (more : before.pulled.length ≤ ended.2.pulled.length)
    (ends : before.outcome step = some ended) : Ends source before (fun _ _ => step) ended :=
  ⟨more, 0, fun _ _ _ _ => ends⟩

/-- Giving a result is settled without a token. -/
theorem Ends.pure (source : Nat → Token) (before : Parser) (value : α) :
    Ends source before (fun _ _ => Pure.pure value) (.ok value, before) :=
  .of_outcome (Nat.le_refl _) rfl

/-- Refusing the lookahead is settled without another token. -/
theorem Ends.refuse (source : Nat → Token) (before : Parser) (wanted : Wanted) :
    Ends source before (fun _ _ => (Parser.refuse wanted : Step α))
      (.error (before.refusal wanted), before) :=
  .of_outcome (Nat.le_refl _) rfl

/-- A step after another one is settled by what settles the second one. -/
theorem Ends.bind {result : α} {ended : Outcome γ}
    (first : Ends source before step (.ok result, middle))
    (rest : Ends source middle (others · · result) ended) :
    Ends source before (fun other depth => step other depth >>= others other depth) ended := by
  obtain ⟨more, enough, ends⟩ := first
  obtain ⟨moreBehind, enoughBehind, endsBehind⟩ := rest
  refine ⟨more.trans moreBehind, max enough enoughBehind, fun depth isEnough other agrees => ?_⟩
  rw [outcome_bind, ends depth (by omega) other fun index before =>
    agrees index (before.trans_le moreBehind)]
  exact endsBehind depth (by omega) other agrees

/-- A step after another one that fails is settled by what settles the failure. -/
theorem Ends.bind_error {error : ParseError}
    (first : Ends source before step (.error error, middle)) :
    Ends source before (fun other depth => step other depth >>= others other depth)
      (.error error, middle) := by
  obtain ⟨more, enough, ends⟩ := first
  refine ⟨more, enough, fun depth isEnough other agrees => ?_⟩
  rw [outcome_bind, ends depth isEnough other agrees]
  rfl

/-- A rule is settled by what settles it as one that calls the others to some depth. -/
theorem Ends.called {rule : Rules → Step α} {ended : Outcome α}
    (ends : Ends source before (fun other depth => rule ((rules other depth).calling other))
      ended) :
    Ends source before (fun other depth => rule (rules other depth)) ended := by
  obtain ⟨more, enough, ends⟩ := ends
  refine ⟨more, enough + 1, fun depth isEnough other agrees => ?_⟩
  obtain ⟨further, rfl⟩ := Nat.exists_eq_add_of_le' isEnough
  exact ends (further + enough) (Nat.le_add_left ..) other agrees

/-- Steps one after the other end as they are given if each of them does. -/
theorem Mirrors.bind {outcome : Except ParseError β} {continuation : β → Except ParseError δ}
    {between : β → α → Parser → Prop} {same : δ → γ → Parser → Prop}
    (first : Mirrors source before step between outcome)
    (rest : ∀ given result middle, between given result middle →
      Mirrors source middle (others · · result) same (continuation given)) :
    Mirrors source before (fun other depth => step other depth >>= others other depth) same
      (outcome >>= continuation) := by
  cases outcome with
  | error error =>
      obtain ⟨after, ends⟩ := first
      exact ⟨after, ends.bind_error⟩
  | ok given =>
      obtain ⟨result, middle, isBetween, ends⟩ := first
      have behind := rest given result middle isBetween
      change Mirrors _ _ _ _ (continuation given)
      cases isGiven : continuation given with
      | error error =>
          rw [isGiven] at behind
          obtain ⟨after, endsBehind⟩ := behind
          exact ⟨after, ends.bind endsBehind⟩
      | ok final =>
          rw [isGiven] at behind
          obtain ⟨result, after, isSame, endsBehind⟩ := behind
          exact ⟨result, after, isSame, ends.bind endsBehind⟩

/-- A step ends as it is given if another one does, wherever that settles it. -/
theorem Mirrors.of_ends {other : Steps α} {same : β → α → Parser → Prop}
    {outcome : Except ParseError β} (mirrors : Mirrors source middle other same outcome)
    (settles : ∀ ended, Ends source middle other ended → Ends source before step ended) :
    Mirrors source before step same outcome := by
  cases outcome with
  | error error =>
      obtain ⟨after, ends⟩ := mirrors
      exact ⟨after, settles _ ends⟩
  | ok given =>
      obtain ⟨result, after, isSame, ends⟩ := mirrors
      exact ⟨result, after, isSame, settles _ ends⟩

/-- A rule ends as it is given if it does so by calling the others to some depth. -/
theorem Mirrors.called (rule : Rules → Step α) {same : β → α → Parser → Prop}
    {outcome : Except ParseError β}
    (mirrors : Mirrors source before
      (fun other depth => rule ((rules other depth).calling other)) same outcome) :
    Mirrors source before (fun other depth => rule (rules other depth)) same outcome :=
  mirrors.of_ends fun _ ends => ends.called

/-- Giving the same result. -/
theorem Mirrors.pure {value : α} {given : β} {same : β → α → Parser → Prop}
    (isSame : same given value before) :
    Mirrors source before (fun _ _ => Pure.pure value) same (.ok given) :=
  ⟨value, before, isSame, .pure source before value⟩

/-- Refusing the same lookahead. -/
theorem Mirrors.refuse {same : β → α → Parser → Prop} (sees : Sees source before state)
    (wanted : Wanted) :
    Mirrors source before (fun _ _ => Parser.refuse wanted) same (.error (state.refuse wanted)) :=
  ⟨before, sees.refusal wanted ▸ .refuse source before wanted⟩

/-- Looking at the parser changes nothing. -/
theorem Mirrors.get {others : (Nat → Token) → Nat → Parser → Step α}
    {same : β → α → Parser → Prop} {outcome : Except ParseError β}
    (mirrors : Mirrors source before (others · · before) same outcome) :
    Mirrors source before (fun other depth => MonadState.get >>= others other depth) same
      outcome :=
  mirrors

/-- A change for which no token is pulled. -/
theorem Mirrors.modify {change : Parser → Parser} {others : (Nat → Token) → Nat → PUnit → Step α}
    {same : β → α → Parser → Prop} {outcome : Except ParseError β}
    (samePulled : (change before).pulled = before.pulled)
    (mirrors : Mirrors source (change before) (others · · ⟨⟩) same outcome) :
    Mirrors source before
      (fun other depth =>
        MonadState.modifyGet (fun parser => (⟨⟩, change parser)) >>= others other depth)
      same outcome :=
  mirrors.of_ends fun _ ends => ⟨samePulled ▸ ends.1, ends.2⟩

/-- A lookahead of another kind is declined without looking further. -/
theorem ends_decline {wanted : Kind → Bool} (unwanted : wanted before.lookahead.kind = false) :
    Ends source before (fun other _ => accept other wanted) (.ok none, before) :=
  ⟨Nat.le_refl _, 0, fun _ _ other _ => by simp [outcome_accept, unwanted]⟩

/-- Sources that hand out the same token next lead to the same parser. -/
theorem next_congr {other : Nat → Token}
    (agrees : ∀ index < (before.next source).pulled.length, other index = source index) :
    before.next other = before.next source := by
  rw [next, next, agrees before.pulled.length (by simp [next])]

/-- A step that pulls a token is settled by that token. -/
theorem ends_afterNext (source : Nat → Token) {result : α}
    (pulls : ∀ other depth,
      before.outcome (step other depth) = some (before.afterNext other result)) :
    Ends source before step (before.afterNext source result) := by
  refine ⟨?_, 0, fun depth _ other agrees => ?_⟩
  · simp [afterNext, next]
  · rw [pulls, afterNext, next_congr agrees, afterNext]

/-- A step that pulls a token fails if that is malformed, as it is given. -/
theorem Mirrors.of_pulls {result : α} {given : β} {same : β → α → Parser → Prop}
    (pulls : ∀ other depth,
      before.outcome (step other depth) = some (before.afterNext other result))
    (sees : Sees source (before.next source) state)
    (isSame : same given result (before.next source)) :
    Mirrors source before step same
      (match state.lexicalError? with
      | some error => .error error
      | none => .ok given) := by
  have ends := ends_afterNext source pulls
  rw [afterNext, sees.lookahead] at ends
  rw [State.lexicalError?]
  by_cases malformed : state.lookahead.isFail = true
  · rw [if_pos malformed] at ends ⊢
    exact ⟨_, ends⟩
  · rw [if_neg malformed] at ends ⊢
    exact ⟨_, _, isSame, ends⟩

/-- Accepting a token does to a parser what it does to the state that it sees. -/
theorem accept_mirrors (sees : Sees source before state) {wanted : Kind → Bool}
    (notAtEnd : wanted .eof = false) :
    Mirrors source before (fun other _ => accept other wanted) (MayBeTaken source before)
      (Parsing.accept wanted state) := by
  have declines : wanted state.ahead = false →
      Ends source before (fun other _ => accept other wanted) (.ok none, before) := fun unwanted =>
    ends_decline (sees.kind_eq ▸ unwanted)
  obtain ⟨pending, finalSpan, openBlocks⟩ := state
  cases pending with
  | nil => exact ⟨none, before, ⟨rfl, rfl⟩, declines notAtEnd⟩
  | cons token others =>
      have isAhead : before.lookahead = token := sees.lookahead
      rw [Parsing.accept]
      dsimp only
      split
      · rename_i isWanted
        rw [← isAhead] at isWanted
        refine .of_pulls (fun other _ => ?_) sees.next ⟨congrArg some isAhead, sees.next⟩
        rw [outcome_accept, if_pos isWanted]
      · rename_i unwanted
        exact ⟨none, before, ⟨rfl, rfl⟩, declines (Bool.eq_false_iff.mpr unwanted)⟩

/-- Trying a part of parsing that may decline, and going on from there. -/
theorem Mirrors.alternatives {bound : Nat} {step : Steps (Option α)}
    {others : (Nat → Token) → Nat → Option α → Step γ}
    {outcome : Except ParseError (Option (Parsing.Taken α bound))}
    {continuation : Option (Parsing.Taken α bound) → Except ParseError δ}
    {same : δ → γ → Parser → Prop}
    (first : Mirrors source before step (MayBeTaken source before) outcome)
    (declined : Mirrors source before (others · · none) same (continuation none))
    (taken : ∀ taken after, Sees source after taken.state →
      Mirrors source after (others · · (some taken.result)) same (continuation (some taken))) :
    Mirrors source before (fun other depth => step other depth >>= others other depth) same
      (outcome >>= continuation) := by
  refine Mirrors.bind first ?_
  rintro (_ | given) result after isTaken
  · obtain ⟨rfl, rfl⟩ := isTaken
    exact declined
  · obtain ⟨rfl, sees⟩ := isTaken
    exact taken given after sees

/-- Expecting a token does to a parser what it does to the state that it sees. -/
theorem expect_mirrors (sees : Sees source before state) {kinds : List Kind}
    (notAtEnd : kinds.contains .eof = false) :
    Mirrors source before (fun other _ => expect other kinds) (IsTaken source)
      (Parsing.expect kinds state) := by
  rw [Parsing.expect_eq_bind]
  exact .alternatives (accept_mirrors sees notAtEnd) (.refuse sees _) fun taken after seesAfter =>
    .pure ⟨rfl, seesAfter⟩

/-- A leaf is taken from what both see. -/
theorem leaf_mirrors (sees : Sees source before state) {wanted : Kind → Bool}
    (notAtEnd : wanted .eof = false) :
    Mirrors source before (fun other _ => leaf other wanted) (MayBeTaken source before) (do
      match ← Parsing.accept wanted state with
      | none => return none
      | some taken => return some ⟨Node.ofToken taken.result, taken.state, taken.shorter⟩) :=
  .alternatives (accept_mirrors sees notAtEnd) (.pure ⟨rfl, rfl⟩) fun _ _ seesAfter =>
    .pure ⟨rfl, seesAfter⟩

/-- A value is the same on what both see. -/
theorem value_mirrors (sees : Sees source before state) :
    Mirrors source before (fun other _ => value other) (MayBeTaken source before)
      (Parsing.value state) :=
  leaf_mirrors sees rfl

/-- A terminator is the same on what both see. -/
theorem terminator_mirrors (sees : Sees source before state) :
    Mirrors source before (fun other _ => terminator other) (MayBeTaken source before)
      (Parsing.terminator state) :=
  leaf_mirrors sees rfl

/-- A comment is the same on what both see. -/
theorem comment_mirrors (sees : Sees source before state) :
    Mirrors source before (fun other _ => comment other) (MayBeTaken source before)
      (Parsing.comment state) :=
  leaf_mirrors sees rfl

/-- A blank statement is the same on what both see. -/
theorem blank_mirrors (sees : Sees source before state) :
    Mirrors source before (fun other _ => blank other) (MayBeTaken source before)
      (Parsing.blank state) :=
  .alternatives (terminator_mirrors sees) (.pure ⟨rfl, rfl⟩) fun _ _ seesAfter =>
    .pure ⟨rfl, seesAfter⟩

end

/-- Wherever a parser sees a state, its statements are those of the state. -/
def StatementsMirror (source : Nat → Token) (state : State) : Prop :=
  ∀ before, Sees source before state →
    Mirrors source before (fun other depth => (rules other depth).statements) (IsReached source)
      (Parsing.statements state)

/-- Wherever a parser sees a state, its parameters are those of the state. -/
def ParametersMirror (source : Nat → Token) (state : State) : Prop :=
  ∀ before, Sees source before state →
    Mirrors source before (fun other depth => (rules other depth).parameters) (IsReached source)
      (Parsing.parameters state)

section

variable {source : Nat → Token} {before : Parser} {state : State}

/-- A program is its statements. -/
theorem program_mirrors (mirror : StatementsMirror source state)
    (sees : Sees source before state) :
    Mirrors source before (fun other depth => (rules other depth).program) (IsReached source)
      (Parsing.program state) := by
  rw [Parsing.program]
  refine .called Rules.program (.get (.bind (mirror before sees) ?_))
  rintro reached _ after ⟨rfl, seesAfter⟩
  exact .pure ⟨by rw [sees.lookahead], seesAfter⟩

/-- A list of parameters is its parameters. -/
theorem paramlist_mirrors (mirror : ParametersMirror source state)
    (sees : Sees source before state) :
    Mirrors source before (fun other depth => (rules other depth).paramlist) (IsReached source)
      (Parsing.paramlist state) := by
  rw [Parsing.paramlist]
  refine .called Rules.paramlist (.get (.bind (mirror before sees) ?_))
  rintro reached _ after ⟨rfl, seesAfter⟩
  exact .pure ⟨by rw [sees.lookahead], seesAfter⟩

/-- A block in one style has the program of a shorter state in it. -/
theorem blockIn_mirrors (delimiter : Delimiter)
    (shorter : ∀ inside : State, inside.pending.length < state.pending.length →
      StatementsMirror source inside)
    (sees : Sees source before state) :
    Mirrors source before (fun other depth => (rules other depth).blockIn delimiter)
      (MayBeTaken source before) (Parsing.blockIn delimiter state) := by
  rw [Parsing.blockIn]
  refine .called (fun called => called.blockIn delimiter) ?_
  refine .alternatives (accept_mirrors sees rfl) (.pure ⟨rfl, rfl⟩) ?_
  intro opened middle seesOpened
  have seesInside := seesOpened.enter delimiter
  refine .modify rfl (.bind (program_mirrors (shorter _ opened.shorter) seesInside) ?_)
  rintro inner _ reached ⟨rfl, seesInner⟩
  refine .modify rfl (.bind (expect_mirrors seesInner.leave rfl) ?_)
  rintro closed _ after ⟨rfl, seesAfter⟩
  exact .pure ⟨rfl, seesAfter⟩

/-- A block is in one of the three styles. -/
theorem block_mirrors
    (shorter : ∀ inside : State, inside.pending.length < state.pending.length →
      StatementsMirror source inside)
    (sees : Sees source before state) :
    Mirrors source before (fun other depth => (rules other depth).block) (MayBeTaken source before)
      (Parsing.block state) := by
  rw [Parsing.block]
  refine .called Rules.block ?_
  refine .alternatives (blockIn_mirrors .curly shorter sees) ?_ fun _ _ seesAfter =>
    .pure ⟨rfl, seesAfter⟩
  refine .alternatives (blockIn_mirrors .paren shorter sees) ?_ fun _ _ seesAfter =>
    .pure ⟨rfl, seesAfter⟩
  exact blockIn_mirrors .bracket shorter sees

/-- A parameter is a value or a block. -/
theorem parameter_mirrors
    (shorter : ∀ inside : State, inside.pending.length < state.pending.length →
      StatementsMirror source inside)
    (sees : Sees source before state) :
    Mirrors source before (fun other depth => (rules other depth).parameter) (IsTaken source)
      (Parsing.parameter state) := by
  rw [Parsing.parameter]
  refine .called Rules.parameter ?_
  refine .alternatives (value_mirrors sees) ?_ fun _ _ seesAfter => .pure ⟨rfl, seesAfter⟩
  refine .alternatives (block_mirrors shorter sees) ?_ fun _ _ seesAfter =>
    .pure ⟨rfl, seesAfter⟩
  exact .refuse sees _

/-- An expression has the parameters of a shorter state behind its value. -/
theorem expression_mirrors
    (shorter : ∀ inside : State, inside.pending.length < state.pending.length →
      ParametersMirror source inside)
    (sees : Sees source before state) :
    Mirrors source before (fun other depth => (rules other depth).expression)
      (MayBeTaken source before) (Parsing.expression state) := by
  rw [Parsing.expression]
  refine .called Rules.expression ?_
  refine .alternatives (value_mirrors sees) (.pure ⟨rfl, rfl⟩) fun head middle seesHead => ?_
  refine .bind (paramlist_mirrors (shorter _ head.shorter) seesHead) ?_
  rintro params _ reached ⟨rfl, seesParams⟩
  refine .bind (expect_mirrors seesParams rfl) ?_
  rintro ended _ after ⟨rfl, seesAfter⟩
  exact .pure ⟨rfl, seesAfter⟩

/-- A statement is an expression, a block, a blank statement or a comment. -/
theorem statement_mirrors
    (shorter : ∀ inside : State, inside.pending.length < state.pending.length →
      StatementsMirror source inside ∧ ParametersMirror source inside)
    (sees : Sees source before state) :
    Mirrors source before (fun other depth => (rules other depth).statement) (IsTaken source)
      (Parsing.statement state) := by
  rw [Parsing.statement]
  refine .called Rules.statement ?_
  refine .alternatives
    (expression_mirrors (fun inside isInside => (shorter inside isInside).2) sees) ?_
    fun _ _ seesAfter => .pure ⟨rfl, seesAfter⟩
  refine .alternatives
    (block_mirrors (fun inside isInside => (shorter inside isInside).1) sees) ?_
    fun _ _ seesAfter => .pure ⟨rfl, seesAfter⟩
  refine .alternatives (blank_mirrors sees) ?_ fun _ _ seesAfter => .pure ⟨rfl, seesAfter⟩
  refine .alternatives (comment_mirrors sees) ?_ fun _ _ seesAfter => .pure ⟨rfl, seesAfter⟩
  exact .refuse sees _

/-- Behind a parameter the others are those of a shorter state. -/
theorem parametersMirror_of_shorter
    (shorter : ∀ inside : State, inside.pending.length < state.pending.length →
      StatementsMirror source inside ∧ ParametersMirror source inside) :
    ParametersMirror source state := by
  intro before sees
  rw [Parsing.parameters]
  refine .called Rules.parameters (.get ?_)
  rw [sees.kind_eq, sees.openBlocks]
  split
  · exact .pure ⟨rfl, sees⟩
  · split
    · exact .refuse sees _
    · refine .bind
        (parameter_mirrors (fun inside isInside => (shorter inside isInside).1) sees) ?_
      rintro first _ middle ⟨rfl, seesFirst⟩
      refine .bind ((shorter _ first.shorter).2 middle seesFirst) ?_
      rintro others _ after ⟨rfl, seesAfter⟩
      exact .pure ⟨rfl, seesAfter⟩

/-- Behind a statement the others are those of a shorter state. -/
theorem statementsMirror_of_shorter
    (shorter : ∀ inside : State, inside.pending.length < state.pending.length →
      StatementsMirror source inside ∧ ParametersMirror source inside) :
    StatementsMirror source state := by
  intro before sees
  rw [Parsing.statements]
  refine .called Rules.statements (.get ?_)
  rw [sees.kind_eq]
  split
  · exact .pure ⟨rfl, sees⟩
  · refine .bind (statement_mirrors shorter sees) ?_
    rintro first _ middle ⟨rfl, seesFirst⟩
    refine .bind ((shorter _ first.shorter).1 middle seesFirst) ?_
    rintro others _ after ⟨rfl, seesAfter⟩
    exact .pure ⟨rfl, seesAfter⟩

end

/-- Statements and parameters are the same on all that a parser and a state both see. -/
theorem statements_and_parameters_mirror (source : Nat → Token) (state : State) :
    StatementsMirror source state ∧ ParametersMirror source state := by
  -- on the number of tokens that are listed: each loop goes on behind a token at least
  induction length : state.pending.length using Nat.strongRecOn generalizing state with
  | ind count inductionHypothesis =>
      have shorter : ∀ inside : State, inside.pending.length < state.pending.length →
          StatementsMirror source inside ∧ ParametersMirror source inside := fun inside isInside =>
        inductionHypothesis _ (by omega) inside rfl
      exact ⟨statementsMirror_of_shorter shorter, parametersMirror_of_shorter shorter⟩

section

variable {source : Nat → Token} {before : Parser} {state : State}

/-- The end of input is expected, and the token behind it is pulled. -/
theorem finish_mirrors (sees : Sees source before state) :
    Mirrors source before (fun other _ => expect other [.eof]) (fun _ _ _ => True)
      (Parsing.finish state) := by
  rw [Parsing.finish]
  split
  · rename_i atEnd
    have isWanted : [Kind.eof].contains before.lookahead.kind = true := by
      rw [sees.kind_eq, atEnd]
      rfl
    have pulls : ∀ other, before.outcome (expect other [.eof]) =
        some (before.afterNext other before.lookahead) := fun other => by
      rw [outcome_expect, if_pos isWanted]
    exact .of_pulls (fun other _ => pulls other) sees.next trivial
  · rename_i notAtEnd
    have unwanted : [Kind.eof].contains before.lookahead.kind = false := by
      rw [sees.kind_eq]
      simpa using notAtEnd
    rw [← sees.refusal]
    exact ⟨_, (ends_decline unwanted).bind (.refuse source before _)⟩

/-- What stands under the root is the same on what both see. -/
theorem root_mirrors (sees : Sees source before state) :
    Mirrors source before (fun other depth => root other (rules other depth))
      (fun tree result _ => result = tree) (Parsing.root state) := by
  rw [Parsing.root]
  have mirror := (statements_and_parameters_mirror source state).1
  refine .get (.bind (program_mirrors mirror sees) ?_)
  rintro inner _ reached ⟨rfl, seesInner⟩
  refine .bind (finish_mirrors seesInner) fun _ _ after _ => ?_
  exact .pure (by rw [sees.lookahead])

end

/-- With the first token of a stream, a parser sees the start of the stream. -/
theorem advance_mirrors (stream : TokenStream) :
    Mirrors stream.token fresh (fun other _ => advance other)
      (fun state _ after => Sees stream.token after state) (State.start stream) := by
  have sees : Sees stream.token (fresh.next stream.token)
      ⟨stream.tokens, stream.finalSpan, []⟩ := by
    refine ⟨fun index => ?_, rfl⟩
    rw [ahead_next]
    change stream.token (0 + index) = stream.token index
    rw [Nat.zero_add]
  exact .of_pulls (fun other _ => outcome_advance fresh) sees sees

/-- Parsing a stream is running the parser on its tokens, or on any source that hands out the
same ones as far as they are pulled. -/
theorem exists_runsTo (stream : TokenStream) : ∃ final,
    ∀ other, (∀ index < final.pulled.length, other index = stream.token index) →
      RunsTo other (stream.parse, final) := by
  have mirrors : Mirrors stream.token fresh
      (fun other depth => do advance other; root other (rules other depth))
      (fun tree result _ => result = tree) stream.parse :=
    .bind (advance_mirrors stream) fun _ _ _ sees => root_mirrors sees
  cases isParsed : stream.parse with
  | error error =>
      rw [isParsed] at mirrors
      obtain ⟨final, -, enough, ends⟩ := mirrors
      exact ⟨final, fun other agrees => ⟨enough, ends enough (Nat.le_refl _) other agrees⟩⟩
  | ok tree =>
      rw [isParsed] at mirrors
      obtain ⟨_, final, rfl, -, enough, ends⟩ := mirrors
      exact ⟨final, fun other agrees => ⟨enough, ends enough (Nat.le_refl _) other agrees⟩⟩

end Parser

end BlockData
