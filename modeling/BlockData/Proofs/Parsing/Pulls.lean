import BlockData.Proofs.Parsing.Malformed
import BlockData.Proofs.Pulling.Consumption
import Mathlib

/-!
# Pulled tokens

Tokens may be pulled from a text one by one, each pull with its own kinds to skip. A pull gives
the first token that it does not skip of those that `next` has not given yet
(`Cursor.nextOutside_eq`), so a sequence of pulls walks once through the calls of `next`, and
never back (`Cursor.pulls_pick`). The parser gets its tokens in this way
(`Cursor.pulls_ignoredKinds`, `exists_runsTo_pulls`), and looks at none behind a malformed one,
so it may as well get them all at once (`TokenStream.parse_congr`).
-/

namespace BlockData

/-- Whether a pull that skips some kinds gives a token. It never skips the end of input or
malformed input. -/
def Token.IsPulled (skip : List Kind) (token : Token) : Prop :=
  token.kind = .eof ∨ token.kind = .fail ∨ token.kind ∉ skip

/-- What pulls with different kinds to skip pick from a stream: each picks the first token that
it does not skip, from the place behind the token picked before. -/
inductive Picks (stream : Nat → Token) : Nat → List (List Kind) → List Token → Prop
  | nil (start : Nat) : Picks stream start [] []
  | cons {start place : Nat} {skip : List Kind} {skips : List (List Kind)} {picked : List Token}
      (behind : start ≤ place)
      (skipped : ∀ earlier, start ≤ earlier → earlier < place → ¬(stream earlier).IsPulled skip)
      (isPulled : (stream place).IsPulled skip)
      (others : Picks stream (place + 1) skips picked) :
      Picks stream start (skip :: skips) (stream place :: picked)

/-- Behind the listed tokens all tokens are the end of input. -/
theorem TokenStream.firstTokens_end (finalSpan : Span) (count : Nat) :
    (TokenStream.mk [] finalSpan).firstTokens (count + 1) =
      .atEnd finalSpan :: (TokenStream.mk [] finalSpan).firstTokens count := by
  rw [firstTokens, List.range_succ_eq_map, List.map_cons, List.map_map]
  rfl

/-- The first tokens of a stream are the first one and those behind it. -/
theorem TokenStream.firstTokens_cons (token : Token) (others : List Token) (finalSpan : Span)
    (count : Nat) : (TokenStream.mk (token :: others) finalSpan).firstTokens (count + 1) =
      token :: (TokenStream.mk others finalSpan).firstTokens count := by
  rw [firstTokens, List.range_succ_eq_map, List.map_cons, List.map_map]
  rfl

namespace Cursor

/-- The tokens of successive pulls, each with its own kinds to skip. -/
def pulls (cursor : Cursor) : List (List Kind) → List Token
  | [] => []
  | skip :: skips =>
      (cursor.nextOutside skip).1 :: (cursor.nextOutside skip).2.pulls skips

/-- Calls behind others are calls of the same stream. -/
theorem afterCalls_add (cursor : Cursor) (first more : Nat) :
    (cursor.afterCalls first).afterCalls more = cursor.afterCalls (first + more) := by
  induction first generalizing cursor with
  | zero => rw [Nat.zero_add, afterCalls]
  | succ first inductionHypothesis =>
      rw [Nat.succ_add, afterCalls, afterCalls, inductionHypothesis]

/-- A call behind some others is a call of the same stream. -/
theorem call_afterCalls (cursor : Cursor) (first earlier : Nat) :
    (cursor.afterCalls first).call earlier = cursor.call (first + earlier) := by
  rw [call, afterCalls_add, call]

/-- A pull gives the first token of the stream that it does not skip, and leads behind it. -/
theorem nextOutside_eq (cursor : Cursor) (skip : List Kind) : ∃ place,
    (∀ earlier < place, ¬(cursor.call earlier).IsPulled skip) ∧
      (cursor.call place).IsPulled skip ∧
      cursor.nextOutside skip = (cursor.call place, cursor.afterCalls (place + 1)) := by
  fun_induction nextOutside skip cursor with
  | case1 cursor token after step kept =>
      have first : cursor.call 0 = token := by rw [call, afterCalls, step]
      refine ⟨0, fun earlier before => absurd before (Nat.not_lt_zero earlier), ?_, ?_⟩
      · rw [first]
        exact kept
      · rw [first, afterCalls_succ step, afterCalls]
  | case2 cursor token after step isSkipped shorter inductionHypothesis =>
      obtain ⟨place, skipped, isPulled, pull⟩ := inductionHypothesis
      rw [← call_succ step] at isPulled
      refine ⟨place + 1, ?_, isPulled, ?_⟩
      · rintro (_ | earlier) before
        · rw [call, afterCalls, step]
          exact isSkipped
        · rw [call_succ step]
          exact skipped earlier (Nat.lt_of_succ_lt_succ before)
      · rw [pull, call_succ step, afterCalls_succ step]

/-- Pulls behind some calls pick from the calls behind these. -/
theorem pulls_afterCalls_pick (cursor : Cursor) (start : Nat) (skips : List (List Kind)) :
    Picks cursor.call start skips ((cursor.afterCalls start).pulls skips) := by
  induction skips generalizing start with
  | nil => exact .nil start
  | cons skip skips inductionHypothesis =>
      obtain ⟨more, skipped, isPulled, pull⟩ := (cursor.afterCalls start).nextOutside_eq skip
      rw [pulls, pull, call_afterCalls, afterCalls_add]
      rw [call_afterCalls] at isPulled
      refine .cons (Nat.le_add_right start more) (fun earlier behind before => ?_) isPulled
        (inductionHypothesis (start + more + 1))
      obtain ⟨between, rfl⟩ := Nat.exists_eq_add_of_le behind
      rw [← call_afterCalls]
      exact skipped between (Nat.lt_of_add_lt_add_left before)

/-- Pulls pick from the calls of `next`. -/
theorem pulls_pick (cursor : Cursor) (skips : List (List Kind)) :
    Picks cursor.call 0 skips (cursor.pulls skips) :=
  cursor.pulls_afterCalls_pick 0 skips

/-- The end of input is given again and again. -/
theorem next_eq_of_isEnd {cursor after : Cursor} {token : Token}
    (step : cursor.next = (token, after)) (isEnd : token.kind = .eof) : after = cursor := by
  obtain ⟨position, text⟩ := cursor
  cases text with
  | nil =>
      cases step
      rfl
  | cons c rest =>
      cases step
      exact absurd isEnd (Lexeme.read_kind_ne_eof c rest)

/-- A pull that gives the end of input does so again. -/
theorem nextOutside_eq_of_isEnd {cursor after : Cursor} {token : Token} {skip : List Kind}
    (step : cursor.nextOutside skip = (token, after)) (isEnd : token.kind = .eof) :
    token = .atEnd token.span ∧ after.nextOutside skip = (token, after) := by
  fun_induction nextOutside skip cursor with
  | case1 cursor first afterFirst firstStep kept =>
      cases step
      obtain rfl := next_eq_of_isEnd firstStep isEnd
      refine ⟨next_eq_atEnd firstStep isEnd, ?_⟩
      rw [nextOutside]
      split
      rename_i again afterAgain againStep
      rw [againStep] at firstStep
      cases firstStep
      exact dif_pos kept
  | case2 cursor first afterFirst firstStep skipped shorter inductionHypothesis =>
      exact inductionHypothesis step

/-- What the parser gets is the first token that the grammar sees and, behind it, what it gets
from the cursor that has moved. -/
theorem significant_of_nextOutside {cursor after : Cursor} {token : Token}
    (step : cursor.nextOutside ignoredKinds = (token, after)) :
    cursor.significant = if token.kind = .eof then ⟨[], token.span⟩
      else ⟨token :: after.significant.tokens, after.significant.finalSpan⟩ := by
  rw [significant]
  split
  rename_i first afterFirst firstStep
  rw [firstStep] at step
  cases step
  rfl

/-- The tokens that the parser gets of a text are those that are pulled without the kinds that
the grammar never sees. -/
theorem pulls_ignoredKinds (cursor : Cursor) (count : Nat) :
    cursor.pulls (List.replicate count ignoredKinds) = cursor.significant.firstTokens count := by
  induction count generalizing cursor with
  | zero => rfl
  | succ count inductionHypothesis =>
      rcases step : cursor.nextOutside ignoredKinds with ⟨token, after⟩
      rw [List.replicate_succ, pulls, step, inductionHypothesis, significant_of_nextOutside step]
      by_cases isEnd : token.kind = .eof
      · obtain ⟨isAtEnd, again⟩ := nextOutside_eq_of_isEnd step isEnd
        rw [significant_of_nextOutside again, if_pos isEnd, if_pos isEnd,
          TokenStream.firstTokens_end, ← isAtEnd]
      · rw [if_neg isEnd, TokenStream.firstTokens_cons]

end Cursor

/-- Some elements up to and including the first one with a property. -/
def cutBehind {α : Type} (p : α → Bool) : List α → List α
  | [] => []
  | first :: others => if p first then [first] else first :: cutBehind p others

/-- Nothing is cut off in front of the first element with the property. If the last element is
repeated behind the end, cutting it off makes no difference. -/
theorem getD_cutBehind {α : Type} {p : α → Bool} {list : List α} {last : α} {place : Nat}
    (before : ∀ earlier < place, ∀ element ∈ list[earlier]?, p element = false) :
    (cutBehind p (list ++ [last])).getD place last = list.getD place last := by
  induction list generalizing place with
  | nil =>
      rw [List.nil_append, cutBehind, cutBehind, ite_self]
      cases place <;> rfl
  | cons first others inductionHypothesis =>
      rw [List.cons_append, cutBehind]
      cases place with
      | zero => split <;> rfl
      | succ place =>
          rw [if_neg (by simp [before 0 (Nat.succ_pos place) first rfl])]
          refine inductionHypothesis fun earlier isBefore => ?_
          exact before (earlier + 1) (Nat.succ_lt_succ isBefore)

namespace TokenStream

/-- Streams are parsed alike if they have the same tokens up to the first malformed one. -/
theorem parse_congr {first second : TokenStream}
    (same : ∀ position, (∀ earlier < position, (first.token earlier).isFail = false) →
      first.token position = second.token position) : first.parse = second.parse := by
  obtain ⟨position, reached, stops, -⟩ := first.exists_verdict
  have clean : ∀ earlier < position, (first.token earlier).isFail = false := by
    intro earlier before
    have member : first.token earlier ∈ first.firstTokens position :=
      List.mem_map_of_mem (List.mem_range.mpr before)
    simpa [Token.isFail] using (areClean_of_afterAll? stops.walked _ member).2
  have sameFront : first.firstTokens position = second.firstTokens position :=
    List.map_congr_left fun index member => same index fun earlier before =>
      clean earlier (before.trans (List.mem_range.mp member))
  have sameStop := same position clean
  have otherStops : second.StopsAt position reached :=
    ⟨sameFront ▸ stops.walked, sameStop ▸ stops.stops⟩
  have sameBehind : (first.token position).kind = .eof →
      first.token (position + 1) = second.token (position + 1) := fun atEnd => by
    refine same (position + 1) fun earlier before => ?_
    rcases Nat.lt_succ_iff_lt_or_eq.mp before with before | rfl
    · exact clean earlier before
    · exact isFail_of_atEnd atEnd
  rcases stops.parse_matching otherStops (.of_eq sameStop.symm)
      (fun atEnd => .of_eq (sameBehind atEnd).symm)
      (fun program derives => ⟨program, derives.trans sameFront, Eq.refl program⟩) with
    ⟨error, failed, otherFailed⟩ | ⟨program, otherProgram, parsed, otherParsed, rfl⟩
  · rw [failed, otherFailed]
  · rw [parsed, otherParsed, sameStop]

end TokenStream

/-- Whether reading ends with a token: the end of input or malformed input. -/
def Token.isLast (token : Token) : Bool :=
  token.kind == .eof || token.isFail

/-- The end of input that the parser comes to is that of the text. -/
theorem Cursor.finalSpan_significant (source : String) :
    (ofString source).significant.finalSpan = (endToken source.toList).span := by
  obtain ⟨count, readsOut⟩ := exists_readsOut (Nat.zero_le source.toList.length)
  have seen := (ofString source).filter_tokens
  rw [show (ofString source).tokens = _ from readsOut.tokens, List.filter_append] at seen
  have same := (List.append_inj' seen rfl).2
  exact congrArg Token.span (List.cons.inj same).1.symm

/-- All tokens of a text that the grammar sees, up to the end of input or the first malformed
one. -/
def eagerTokens (source : String) : List Token :=
  cutBehind Token.isLast ((Cursor.ofString source).tokens.filter Token.isSeen)

/-- The parser gets the same of a text as of the tokens that are read before it starts, up to
the first malformed token. -/
theorem token_significant_eq {source : String} {position : Nat}
    (sound : ∀ earlier < position,
      ((Cursor.ofString source).significant.token earlier).isFail = false) :
    (Cursor.ofString source).significant.token position =
      (TokenStream.mk (eagerTokens source) (endToken source.toList).span).token position := by
  rw [eagerTokens, Cursor.filter_tokens, ← Cursor.finalSpan_significant]
  refine (getD_cutBehind fun earlier before token isToken => ?_).symm
  have isListed : (Cursor.ofString source).significant.token earlier = token := by
    rw [TokenStream.token, List.getD_eq_getElem?_getD, isToken, Option.getD_some]
  have notAtEnd := Cursor.kind_ne_eof_of_mem_significant (List.mem_of_getElem? isToken)
  rw [Token.isLast, ← isListed, sound earlier before, isListed, Bool.or_false]
  exact beq_eq_false_iff_ne.mpr notAtEnd

/-- The tokens that the parser gets of a text come to an end behind the listed ones. -/
theorem Cursor.endsFirstAt_significant (cursor : Cursor) :
    Parser.EndsFirstAt cursor.significant.token cursor.significant.tokens.length where
  isEnd := by rw [TokenStream.token, List.getD_eq_default _ _ (Nat.le_refl _)]; rfl
  isFirst := fun index inside => by
    rw [TokenStream.token, List.getD_eq_getElem _ _ inside]
    exact kind_ne_eof_of_mem_significant (List.getElem_mem inside)

/-- A text is parsed by pulling some of its tokens, one by one and without the kinds that the
grammar never sees. Any source that hands out these tokens is parsed in the same way. -/
theorem exists_runsTo_pulls (source : String) : ∃ (final : Parser) (count : Nat),
    final.pulled = (Cursor.ofString source).pulls (List.replicate count ignoredKinds) ∧
      ∀ tokens : Nat → Token, (List.range count).map tokens = final.pulled →
        Parser.RunsTo tokens (parse source, final) := by
  obtain ⟨final, endsAlike⟩ := Parser.exists_runsTo (Cursor.ofString source).significant
  obtain ⟨last, pulled, -⟩ := Parser.run_stops (Cursor.ofString source).endsFirstAt_significant
    (endsAlike _ fun _ _ => rfl)
  refine ⟨final, last + 1, ?_, fun tokens handsOut => endsAlike tokens fun index inside => ?_⟩
  · rw [pulled, Cursor.pulls_ignoredKinds, TokenStream.firstTokens]
  · rw [pulled, List.length_map, List.length_range] at inside
    rw [pulled] at handsOut
    exact List.map_inj_left.mp handsOut index (List.mem_range.mpr inside)

/-- Whether tokens are read while they are parsed or before makes no difference. Parsing a text
gives what parsing the list of its tokens gives, without those that the grammar never sees, up
to the end of input or the first malformed one, with the end of input repeated behind them. What
the parser gets of the text are the tokens that it pulls one by one; and pulls, whatever each of
them skips, give each the first token that it does not skip of those that `next` has not given
yet. A parser that asks for one token after the other comes to the same result on the listed
tokens and on those that it pulls from the text. -/
theorem parse_agrees_with_eager_tokens (source : String) :
    parse source =
        (TokenStream.ofTokens (eagerTokens source) (endToken source.toList).span false).parse ∧
      (∀ count, (Cursor.ofString source).pulls (List.replicate count ignoredKinds) =
        (Cursor.ofString source).significant.firstTokens count) ∧
      (∀ skips, Picks (Cursor.ofString source).call 0 skips
        ((Cursor.ofString source).pulls skips)) ∧
      (∃ final, Parser.RunsTo
        (TokenStream.ofTokens (eagerTokens source) (endToken source.toList).span false).token
        (parse source, final)) ∧
      ∃ (final : Parser) (count : Nat),
        final.pulled = (Cursor.ofString source).pulls (List.replicate count ignoredKinds) ∧
        ∀ tokens : Nat → Token, (List.range count).map tokens = final.pulled →
          Parser.RunsTo tokens (parse source, final) := by
  have same : parse source = TokenStream.parse
      (.ofTokens (eagerTokens source) (endToken source.toList).span false) :=
    TokenStream.parse_congr fun position sound => token_significant_eq sound
  refine ⟨same, ?_, ?_, ?_, exists_runsTo_pulls source⟩
  · exact (Cursor.ofString source).pulls_ignoredKinds
  · exact (Cursor.ofString source).pulls_pick
  · obtain ⟨final, endsAlike⟩ := Parser.exists_runsTo
      (.ofTokens (eagerTokens source) (endToken source.toList).span false)
    rw [same]
    exact ⟨final, endsAlike _ fun _ _ => rfl⟩

end BlockData
