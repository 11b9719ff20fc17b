import BlockData.Cursor
import BlockData.Node
import BlockData.Parsing.Error

/-!
# Parser states

A parser state is the tokens that are not yet consumed, the first of which is
the lookahead, and the blocks that are open. Tokens are consumed one at a time,
and each one that becomes the lookahead is looked at once for being malformed.
`accept_eq_some` and `expect_eq_ok` say what a consumed token was and what it
leaves.
-/

namespace BlockData.Parsing

/-- What the parser has before it. -/
structure State where
  /-- The tokens from the lookahead on, before the endless end of input. -/
  pending : List Token
  /-- The place of the end of input. -/
  finalSpan : Span
  /-- The open blocks, the innermost first. -/
  openBlocks : List Delimiter

namespace State

/-- The token that decides what is parsed next. -/
def lookahead (state : State) : Token :=
  state.pending.headD (.atEnd state.finalSpan)

/-- The kind of the lookahead. -/
def ahead (state : State) : Kind :=
  state.lookahead.kind

/-- The error of a malformed lookahead. -/
def lexicalError? (state : State) : Option ParseError :=
  if state.lookahead.isFail then some (.lexical (.ofToken state.lookahead)) else none

/-- The error of a lookahead that the grammar does not allow. -/
def refuse (state : State) (wanted : Wanted) : ParseError :=
  .unexpected state.ahead wanted state.lookahead.span.line state.lookahead.span.column

/-- The state inside of a block. -/
def enter (state : State) (delimiter : Delimiter) : State :=
  { state with openBlocks := delimiter :: state.openBlocks }

/-- The state behind the statements of the innermost block. -/
def leave (state : State) : State :=
  { state with openBlocks := state.openBlocks.tail }

/-- The state before the first token of a stream, unless that is malformed. -/
def start (stream : TokenStream) : Except ParseError State :=
  let state : State := ⟨stream.tokens, stream.finalSpan, []⟩
  match state.lexicalError? with
  | some error => .error error
  | none => .ok state

end State

/-- A result for which tokens were consumed: fewer than `bound` are left. -/
structure Taken (α : Type) (bound : Nat) where
  result : α
  state : State
  shorter : state.pending.length < bound

/-- A result for which no token had to be consumed: no more than `bound` are left. -/
structure Reached (α : Type) (bound : Nat) where
  result : α
  state : State
  within : state.pending.length ≤ bound

/-- Consumes the lookahead if it is of a wanted kind. The next token must not be
malformed. -/
def accept (wanted : Kind → Bool) (state : State) :
    Except ParseError (Option (Taken Token state.pending.length)) :=
  match pending : state.pending with
  | [] => .ok none
  | token :: others =>
      if wanted token.kind then
        let next : State := { state with pending := others }
        match next.lexicalError? with
        | some error => .error error
        | none => .ok (some ⟨token, next, by simp [next]⟩)
      else .ok none

/-- Consumes the lookahead, which must be of one of some kinds. -/
def expect (kinds : List Kind) (state : State) :
    Except ParseError (Taken Token state.pending.length) :=
  match accept kinds.contains state with
  | .error error => .error error
  | .ok (some taken) => .ok taken
  | .ok none => .error (state.refuse (.oneOf kinds))

/-- What is accepted was the lookahead and of a wanted kind, and nothing else of
the state changes. -/
theorem accept_eq_some {wanted : Kind → Bool} {state : State}
    {taken : Taken Token state.pending.length}
    (accepted : accept wanted state = .ok (some taken)) :
    state.pending = taken.result :: taken.state.pending ∧ wanted taken.result.kind = true ∧
      taken.state.openBlocks = state.openBlocks ∧ taken.state.finalSpan = state.finalSpan := by
  obtain ⟨pending, finalSpan, openBlocks⟩ := state
  cases pending with
  | nil => cases accepted
  | cons token others =>
      simp only [accept] at accepted
      split at accepted
      · rename_i isWanted
        split at accepted
        · cases accepted
        · cases accepted
          exact ⟨rfl, isWanted, rfl, rfl⟩
      · cases accepted

/-- What was expected was the lookahead and of one of the kinds, and nothing else
of the state changes. -/
theorem expect_eq_ok {kinds : List Kind} {state : State}
    {taken : Taken Token state.pending.length} (expected : expect kinds state = .ok taken) :
    state.pending = taken.result :: taken.state.pending ∧ taken.result.kind ∈ kinds ∧
      taken.state.openBlocks = state.openBlocks ∧ taken.state.finalSpan = state.finalSpan := by
  unfold expect at expected
  split at expected
  · cases expected
  · rename_i accepted
    cases expected
    simpa using accept_eq_some accepted
  · cases expected

/-- Consumes the end of input. The token behind it is looked at as well. -/
def finish (state : State) : Except ParseError Unit :=
  if state.ahead = .eof then
    let next : State := { state with pending := state.pending.tail }
    match next.lexicalError? with
    | some error => .error error
    | none => .ok ()
  else .error (state.refuse (.oneOf [.eof]))

end BlockData.Parsing
