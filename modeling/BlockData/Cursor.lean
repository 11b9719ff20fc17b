import BlockData.Lexeme.Extent
import BlockData.Position

/-!
# Cursors

A cursor is a place in a text: the position reached and the characters that are
left. `next` reads one token and moves past it, malformed ones included; at the
end it stays and gives the end of input again and again. `tokens` is the whole
stream, and `significant` is what remains of it for the grammar.
-/

namespace BlockData

/-- A place in a text. -/
structure Cursor where
  position : Position
  rest : List Char

namespace Cursor

/-- The start of a text. -/
def ofString (source : String) : Cursor :=
  ⟨.start, source.toList⟩

/-- The token of the lexeme at the head of a text. -/
def tokenOf (position : Position) (lexeme : Lexeme) (text : List Char) : Token :=
  let reported := position.advance lexeme.reportedAt text
  { kind := lexeme.kind
    value := lexeme.value
    span :=
      { start := position.offset
        stop := (position.advance lexeme.length text).offset
        line := reported.line
        column := reported.column } }

/-- Reads the next token and moves past it. -/
def next (cursor : Cursor) : Token × Cursor :=
  match cursor.rest with
  | [] =>
      let place := cursor.position
      (.atEnd ⟨place.offset, place.offset, place.line, place.column⟩, cursor)
  | c :: rest =>
      let lexeme := Lexeme.read c rest
      let text := c :: rest
      (tokenOf cursor.position lexeme text,
        ⟨cursor.position.advance lexeme.length text, text.drop lexeme.length⟩)

/-- A token that is not the end of input takes characters. -/
theorem next_shorter {cursor after : Cursor} {token : Token}
    (step : cursor.next = (token, after)) (kind : token.kind ≠ .eof) :
    after.rest.length < cursor.rest.length := by
  unfold next at step
  split at step
  · cases step
    exact absurd rfl kind
  · rename_i c rest text
    cases step
    have positive := Lexeme.read_length_pos c rest
    simp only [text, List.length_drop, List.length_cons]
    omega

/-- Reads the next token whose kind is not in `skip`. The end of input and
malformed input are never skipped. -/
def nextOutside (skip : List Kind) (cursor : Cursor) : Token × Cursor :=
  match step : cursor.next with
  | (token, after) =>
      if kept : token.kind = .eof ∨ token.kind = .fail ∨ token.kind ∉ skip then (token, after)
      else
        have _shorter := next_shorter step (fun isEnd => kept (.inl isEnd))
        nextOutside skip after
termination_by cursor.rest.length

/-- A token outside of `skip` that is not the end of input takes characters. -/
theorem nextOutside_shorter {skip : List Kind} {cursor after : Cursor} {token : Token}
    (step : cursor.nextOutside skip = (token, after)) (kind : token.kind ≠ .eof) :
    after.rest.length < cursor.rest.length := by
  fun_induction nextOutside skip cursor with
  | case1 cursor first afterFirst firstStep kept =>
      cases step
      exact next_shorter firstStep kind
  | case2 cursor first afterFirst firstStep skipped firstShorter inductionHypothesis =>
      have := inductionHypothesis step
      omega

/-- All tokens from a cursor on, up to and including the end of input. -/
def tokens (cursor : Cursor) : List Token :=
  match step : cursor.next with
  | (token, after) =>
      if kind : token.kind = .eof then [token]
      else
        have _shorter := next_shorter step kind
        token :: after.tokens
termination_by cursor.rest.length

end Cursor

/-- The kinds that the grammar never sees. -/
def ignoredKinds : List Kind :=
  [.trivia .whitespace, .trivia .escapedNewline]

/-- Tokens to be parsed. Behind the listed ones the end of input, at `finalSpan`,
repeats without end. -/
structure TokenStream where
  tokens : List Token
  finalSpan : Span

/-- The stream of some tokens. With `skipping` it leaves out those that the grammar
never sees. -/
def TokenStream.ofTokens (tokens : List Token) (finalSpan : Span) (skipping : Bool) :
    TokenStream :=
  ⟨if skipping then tokens.filter fun token => !ignoredKinds.contains token.kind else tokens,
    finalSpan⟩

/-- The tokens from a cursor on without those that the grammar never sees. -/
def Cursor.significant (cursor : Cursor) : TokenStream :=
  match step : cursor.nextOutside ignoredKinds with
  | (token, after) =>
      if kind : token.kind = .eof then ⟨[], token.span⟩
      else
        have _shorter := nextOutside_shorter step kind
        let others := after.significant
        ⟨token :: others.tokens, others.finalSpan⟩
termination_by cursor.rest.length

/-- The tokens of a text, or the first place where it is malformed. -/
def tokenize (source : String) : Except LexicalError (List Token) :=
  let tokens := (Cursor.ofString source).tokens
  match tokens.find? Token.isFail with
  | some token => .error (.ofToken token)
  | none => .ok tokens

end BlockData
