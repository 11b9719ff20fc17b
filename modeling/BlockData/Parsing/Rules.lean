import BlockData.Parsing.State

/-!
# Grammar rules

A function for each rule of the grammar of `BlockData.Grammar`, by recursive
descent with one token of lookahead. A rule that does not own the lookahead gives
`none`; once a rule has consumed a token it gives a node or fails. The states in
the results carry the decrease that the recursion needs.
-/

namespace BlockData.Parsing

/-- A value is a leaf. -/
def value (state : State) : Except ParseError (Option (Taken Node state.pending.length)) := do
  match ← accept Kind.isValue state with
  | none => return none
  | some taken => return some ⟨.ofToken taken.result, taken.state, taken.shorter⟩

/-- A terminator is a leaf. -/
def terminator (state : State) : Except ParseError (Option (Taken Node state.pending.length)) := do
  match ← accept Kind.isTerminator state with
  | none => return none
  | some taken => return some ⟨.ofToken taken.result, taken.state, taken.shorter⟩

/-- A comment is a leaf. -/
def comment (state : State) : Except ParseError (Option (Taken Node state.pending.length)) := do
  match ← accept (· == .comment) state with
  | none => return none
  | some taken => return some ⟨.ofToken taken.result, taken.state, taken.shorter⟩

/-- A terminator alone is a blank statement. -/
def blank (state : State) : Except ParseError (Option (Taken Node state.pending.length)) := do
  match ← terminator state with
  | none => return none
  | some taken => return some ⟨.node .blank none taken.result.span [], taken.state, taken.shorter⟩

/-- The block of an opening and a closing token and the statements between them. -/
def blockNode (delimiter : Delimiter) (opened closed : Token) (statements : List Node) : Node :=
  .node (.block delimiter) none { opened.span with stop := closed.span.stop } statements

mutual

/-- A block in one style. Its statements are its children, without a program
between them. -/
def blockIn (delimiter : Delimiter) (state : State) :
    Except ParseError (Option (Taken Node state.pending.length)) := do
  match ← accept (· == .opening delimiter) state with
  | none => return none
  | some opened =>
      have _shorter := opened.shorter
      let inner ← program (opened.state.enter delimiter)
      let closed ← expect [.closing delimiter] inner.state.leave
      return some
        { result := blockNode delimiter opened.result closed.result inner.result.children
          state := closed.state
          shorter := by
            have := opened.shorter
            have := inner.within
            have := closed.shorter
            simp only [State.enter, State.leave] at *
            omega }
termination_by (state.pending.length, 0)

/-- A block in any style. -/
def block (state : State) : Except ParseError (Option (Taken Node state.pending.length)) := do
  match ← blockIn .curly state with
  | some taken => return some taken
  | none =>
      match ← blockIn .paren state with
      | some taken => return some taken
      | none => blockIn .bracket state
termination_by (state.pending.length, 1)

/-- A parameter of an expression. -/
def parameter (state : State) : Except ParseError (Taken Node state.pending.length) := do
  match ← value state with
  | some taken => return taken
  | none =>
      match ← block state with
      | some taken => return taken
      | none => .error (state.refuse .parameter)
termination_by (state.pending.length, 2)

/-- The parameters up to a terminator. The end of input is none. -/
def parameters (state : State) :
    Except ParseError (Reached (List Node) state.pending.length) := do
  if state.ahead.isTerminator then return ⟨[], state, Nat.le_refl _⟩
  else if state.ahead = .eof then
    .error (state.refuse (.restOfExpression state.openBlocks.head?))
  else
    let first ← parameter state
    have _shorter := first.shorter
    let others ← parameters first.state
    return ⟨first.result :: others.result, others.state, by have := others.within; omega⟩
termination_by (state.pending.length, 3)

/-- The parameters as one node. -/
def paramlist (state : State) : Except ParseError (Reached Node state.pending.length) := do
  let reached ← parameters state
  return ⟨.node .paramlist none state.lookahead.span reached.result, reached.state, reached.within⟩
termination_by (state.pending.length, 4)

/-- A value with its parameters. -/
def expression (state : State) :
    Except ParseError (Option (Taken Node state.pending.length)) := do
  match ← value state with
  | none => return none
  | some head =>
      have _shorter := head.shorter
      let params ← paramlist head.state
      let ended ← expect terminatorKinds params.state
      return some
        { result := .node .expression none head.result.span [head.result, params.result]
          state := ended.state
          shorter := by
            have := head.shorter
            have := params.within
            have := ended.shorter
            omega }
termination_by (state.pending.length, 5)

/-- A statement. -/
def statement (state : State) : Except ParseError (Taken Node state.pending.length) := do
  match ← expression state with
  | some taken => return taken
  | none =>
      match ← block state with
      | some taken => return taken
      | none =>
          match ← blank state with
          | some taken => return taken
          | none =>
              match ← comment state with
              | some taken => return taken
              | none => .error (state.refuse .statement)
termination_by (state.pending.length, 6)

/-- The statements up to a closing bracket or the end of input. Blank statements
are not kept. -/
def statements (state : State) :
    Except ParseError (Reached (List Node) state.pending.length) := do
  if state.ahead.endsProgram then return ⟨[], state, Nat.le_refl _⟩
  else
    let first ← statement state
    have _shorter := first.shorter
    let others ← statements first.state
    let kept := if first.result.kind = .blank then others.result else first.result :: others.result
    return ⟨kept, others.state, by have := others.within; omega⟩
termination_by (state.pending.length, 7)

/-- The statements as one node. -/
def program (state : State) : Except ParseError (Reached Node state.pending.length) := do
  let reached ← statements state
  return ⟨.node .program none state.lookahead.span reached.result, reached.state, reached.within⟩
termination_by (state.pending.length, 8)

end

/-- A program and the end of input behind it, under a root. -/
def root (state : State) : Except ParseError Node := do
  let reached ← program state
  finish reached.state
  return .node .root none state.lookahead.span [reached.result]

end BlockData.Parsing

namespace BlockData

/-- The tree of a token stream. -/
def TokenStream.parse (stream : TokenStream) : Except ParseError Node := do
  Parsing.root (← Parsing.State.start stream)

/-- The tree of a text. -/
def parse (source : String) : Except ParseError Node :=
  (Cursor.ofString source).significant.parse

end BlockData
