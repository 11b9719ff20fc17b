import BlockData.Proofs.Lexing.Flaws
import BlockData.Proofs.Lexing.Lines

/-!
# The stream of tokens

Reading from a text is a walk over its offsets: a cursor is an offset, with the position
that counting gives and the characters behind it (`Cursor.ofOffset`), and one call of
`next` leads to the end of the lexeme there (`Cursor.next_ofOffset`). So whatever holds at
the end of a text, and before a lexeme if it holds behind it, holds at every offset
(`offset_induction`). The calls of `next` cut the text into its lexemes, and from then on
give the end of input for ever.
-/

namespace BlockData

/-- The token of a lexeme at an offset of a text. -/
def Lexeme.tokenAt (text : List Char) (offset : Nat) (lexeme : Lexeme) : Token :=
  ⟨lexeme.kind, lexeme.value, offset, offset + lexeme.length,
    lineAt text (offset + lexeme.reportedAt), columnAt text (offset + lexeme.reportedAt)⟩

/-- The end of a text as a token. -/
def endToken (text : List Char) : Token :=
  .atEnd ⟨text.length, text.length, lineAt text text.length, columnAt text text.length⟩

/-- Behind an offset that is not the end stands the rest of a text. -/
theorem length_of_drop_eq_cons {text : List Char} {offset : Nat} {c : Char} {rest : List Char}
    (behind : text.drop offset = c :: rest) : text.length = offset + (rest.length + 1) := by
  have length := congrArg List.length behind
  rw [List.length_drop, List.length_cons] at length
  omega

/-- What holds at the end of a text, and before a lexeme if it holds behind it, holds at
every offset. -/
@[elab_as_elim]
theorem offset_induction {text : List Char} {motive : Nat → Prop} (atEnd : motive text.length)
    (before : ∀ offset c rest, text.drop offset = c :: rest →
      motive (offset + (Lexeme.read c rest).length) → motive offset)
    {offset : Nat} (inside : offset ≤ text.length) : motive offset := by
  induction remaining : text.length - offset using Nat.strongRecOn generalizing offset with
  | ind count inductionHypothesis =>
      cases behind : text.drop offset with
      | nil =>
          obtain rfl : offset = text.length := by
            have := List.drop_eq_nil_iff.mp behind
            omega
          exact atEnd
      | cons c rest =>
          have positive := Lexeme.read_length_pos c rest
          have within := Lexeme.read_length_le c rest
          have length := length_of_drop_eq_cons behind
          exact before offset c rest behind
            (inductionHypothesis _ (by omega) (by omega) rfl)

namespace Cursor

/-- The cursor at an offset of a text. -/
def ofOffset (text : List Char) (offset : Nat) : Cursor :=
  ⟨.ofOffset text offset, text.drop offset⟩

/-- A call before a lexeme gives its token and leads behind it. -/
theorem next_ofOffset {text : List Char} {offset : Nat} {c : Char} {rest : List Char}
    (behind : text.drop offset = c :: rest) :
    (ofOffset text offset).next = ((Lexeme.read c rest).tokenAt text offset,
      ofOffset text (offset + (Lexeme.read c rest).length)) := by
  have within := Lexeme.read_length_le c rest
  have reported := Lexeme.read_reportedAt_lt c rest
  have length := length_of_drop_eq_cons behind
  have advanced : ∀ count ≤ (Lexeme.read c rest).length,
      (Position.ofOffset text offset).advance count (c :: rest) =
        .ofOffset text (offset + count) := fun count reached => by
    rw [← behind, Position.advance_ofOffset (by omega)]
  simp only [next, ofOffset, behind, tokenOf, advanced _ (Nat.le_refl _),
    advanced _ (Nat.le_of_lt reported), ← List.drop_drop]
  rfl

/-- One call at an offset of a text reads the characters there as a token with a kind and a
value, and leads behind them. The token is reported `place` characters behind the offset. -/
structure ReadsAt (text : List Char) (offset : Nat) (kind : Kind) (value : Value)
    (characters : List Char) (place : Nat) : Prop where
  inFront : characters <+: text.drop offset
  next : (ofOffset text offset).next =
    (⟨kind, some value, offset, offset + characters.length,
        lineAt text (offset + place), columnAt text (offset + place)⟩,
      ofOffset text (offset + characters.length))

/-- A lexeme with a value is read at the offset that it stands at. -/
theorem ReadsAt.of_read {text : List Char} {offset : Nat} {c : Char} {rest : List Char}
    {kind : Kind} {value : Value} {characters : List Char} {place : Nat}
    (behind : text.drop offset = c :: rest) (inFront : characters <+: c :: rest)
    (read : Lexeme.read c rest = ⟨kind, some value, characters.length, place⟩) :
    ReadsAt text offset kind value characters place where
  inFront := by rwa [behind]
  next := by
    rw [next_ofOffset behind, read]
    rfl

/-- A call at the end of a text gives the end of input and stays there. -/
theorem next_end (text : List Char) :
    (ofOffset text text.length).next = (endToken text, ofOffset text text.length) := by
  simp only [next, ofOffset, List.drop_length]
  rfl

/-- All tokens are the first one and, behind it, those of the cursor that has moved. -/
theorem tokens_of_next {cursor after : Cursor} {token : Token}
    (step : cursor.next = (token, after)) :
    cursor.tokens = if token.kind = .eof then [token] else token :: after.tokens := by
  rw [tokens]
  split
  rename_i first afterFirst firstStep
  rw [firstStep] at step
  cases step
  rfl

/-- The tokens at the end of a text. -/
theorem tokens_end (text : List Char) : (ofOffset text text.length).tokens = [endToken text] :=
  tokens_of_next (next_end text)

/-- The tokens before a lexeme. -/
theorem tokens_ofOffset {text : List Char} {offset : Nat} {c : Char} {rest : List Char}
    (behind : text.drop offset = c :: rest) :
    (ofOffset text offset).tokens = (Lexeme.read c rest).tokenAt text offset ::
      (ofOffset text (offset + (Lexeme.read c rest).length)).tokens :=
  (tokens_of_next (next_ofOffset behind)).trans (if_neg (Lexeme.read_kind_ne_eof c rest))

/-- The cursor behind some calls of `next`. -/
def afterCalls (cursor : Cursor) : Nat → Cursor
  | 0 => cursor
  | count + 1 => cursor.next.2.afterCalls count

/-- The token that a call of `next` gives behind some others. -/
def call (cursor : Cursor) (earlier : Nat) : Token :=
  (cursor.afterCalls earlier).next.1

/-- The cursor behind more calls is that behind them from the cursor that has moved. -/
theorem afterCalls_succ {cursor after : Cursor} {token : Token}
    (step : cursor.next = (token, after)) (count : Nat) :
    cursor.afterCalls (count + 1) = after.afterCalls count := by
  rw [afterCalls, step]

/-- Later calls are those of the cursor that has moved. -/
theorem call_succ {cursor after : Cursor} {token : Token} (step : cursor.next = (token, after))
    (earlier : Nat) : cursor.call (earlier + 1) = after.call earlier := by
  rw [call, afterCalls_succ step, call]

/-- All calls at the end of a text give the end of input. -/
theorem call_end (text : List Char) (earlier : Nat) :
    (ofOffset text text.length).call earlier = endToken text := by
  induction earlier with
  | zero => rw [call, afterCalls, next_end]
  | succ earlier inductionHypothesis => rw [call_succ (next_end text), inductionHypothesis]

end Cursor

/-- Tokens that lie side by side from one offset to another one, none of them empty. -/
def Tiles (start : Nat) : List Token → Nat → Prop
  | [], stop => start = stop
  | token :: others, stop =>
      token.span.start = start ∧ start < token.span.stop ∧ Tiles token.span.stop others stop

/-- Calls of `next` read a text from an offset to its end: `count` tokens that tile it and
say about their characters only what these are, and then the end of input for ever. -/
structure ReadsOut (text : List Char) (offset count : Nat) : Prop where
  enough : offset + count ≤ text.length
  tiles : Tiles offset ((List.range count).map (Cursor.ofOffset text offset).call) text.length
  cut : ∀ token ∈ (List.range count).map (Cursor.ofOffset text offset).call,
    token.kind ≠ .eof ∧ token.span.stop ≤ text.length ∧
      token.word.Quotes (text.extract token.span.start token.span.stop)
  ended : ∀ later, count ≤ later → (Cursor.ofOffset text offset).call later = endToken text
  tokens : (Cursor.ofOffset text offset).tokens =
    (List.range count).map (Cursor.ofOffset text offset).call ++ [endToken text]

namespace ReadsOut

/-- At the end of a text no calls are left. -/
theorem atEnd (text : List Char) : ReadsOut text text.length 0 where
  enough := Nat.le_refl _
  tiles := rfl
  cut := nofun
  ended := fun later _ => Cursor.call_end text later
  tokens := Cursor.tokens_end text

/-- One more call reads the lexeme in front. -/
theorem before {text : List Char} {offset count : Nat} {c : Char} {rest : List Char}
    (behind : text.drop offset = c :: rest)
    (others : ReadsOut text (offset + (Lexeme.read c rest).length) count) :
    ReadsOut text offset (count + 1) := by
  have positive := Lexeme.read_length_pos c rest
  have enough := others.enough
  have first : (Cursor.ofOffset text offset).call 0 = (Lexeme.read c rest).tokenAt text offset := by
    rw [Cursor.call, Cursor.afterCalls, Cursor.next_ofOffset behind]
  have later : ∀ earlier, (Cursor.ofOffset text offset).call (earlier + 1) =
      (Cursor.ofOffset text (offset + (Lexeme.read c rest).length)).call earlier :=
    Cursor.call_succ (Cursor.next_ofOffset behind)
  have calls : (List.range (count + 1)).map (Cursor.ofOffset text offset).call =
      (Lexeme.read c rest).tokenAt text offset :: (List.range count).map
        (Cursor.ofOffset text (offset + (Lexeme.read c rest).length)).call := by
    rw [List.range_succ_eq_map, List.map_cons, first, List.map_map]
    exact congrArg _ (List.map_congr_left fun earlier _ => later earlier)
  constructor
  case enough => omega
  case tiles =>
    rw [calls]
    exact ⟨rfl, Nat.lt_add_of_pos_right positive, others.tiles⟩
  case cut =>
    rw [calls]
    intro token member
    rcases List.mem_cons.mp member with rfl | member
    · refine ⟨Lexeme.read_kind_ne_eof c rest, by change offset + _ ≤ _; omega, ?_⟩
      have quotes := Lexeme.read_quotes c rest
      rw [← behind] at quotes
      change Word.Quotes _ (List.take (offset + _ - offset) (List.drop offset text))
      rwa [Nat.add_sub_cancel_left]
    · exact others.cut token member
  case ended =>
    intro call reached
    obtain ⟨earlier, rfl⟩ : ∃ earlier, call = earlier + 1 := ⟨call - 1, by omega⟩
    rw [later, others.ended earlier (by omega)]
  case tokens =>
    rw [calls, Cursor.tokens_ofOffset behind, others.tokens, List.cons_append]

end ReadsOut

/-- From every offset of a text some calls read out the rest of it. -/
theorem exists_readsOut {text : List Char} {offset : Nat} (inside : offset ≤ text.length) :
    ∃ count, ReadsOut text offset count := by
  refine offset_induction ⟨0, .atEnd text⟩ ?_ inside
  rintro offset c rest behind ⟨count, others⟩
  exact ⟨count + 1, others.before behind⟩

/-- Reading a text comes to its end and loses nothing. At most as many calls of `next` as
there are characters give tokens other than the end of input, malformed ones included.
They lie side by side from the start of the text to its end, each of them takes a character
at least, and the lexemes that they quote are pieces of the text. All further calls give
the end of input at the end of the text. -/
theorem Cursor.calls_tile_source (source : String) :
    let text := source.toList
    let cursor := ofString source
    ∃ count ≤ text.length,
      let calls := (List.range count).map cursor.call
      Tiles 0 calls text.length ∧
      (∀ token ∈ calls, token.kind ≠ .eof ∧ token.span.stop ≤ text.length ∧
        token.word.Quotes (text.extract token.span.start token.span.stop)) ∧
      (∀ later, count ≤ later → cursor.call later = endToken text) ∧
      cursor.tokens = calls ++ [endToken text] := by
  intro text cursor
  obtain ⟨count, readsOut⟩ := exists_readsOut (Nat.zero_le text.length)
  have enough := readsOut.enough
  exact ⟨count, by omega, readsOut.tiles, readsOut.cut, readsOut.ended, readsOut.tokens⟩

end BlockData
