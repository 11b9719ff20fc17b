import BlockData.Proofs.Lexing.Stream
import BlockData.Proofs.Parsing.Outcome

/-!
# Parsing of texts

What the parser gets of a text are the tokens of its stream without those that the
grammar never sees (`Cursor.filter_tokens`). The end of input is the last of them and no
other one, so the derivation of whatever is parsed takes all of them.
-/

namespace BlockData

/-- Whether the grammar sees a token. -/
def Token.isSeen (token : Token) : Bool :=
  !ignoredKinds.contains token.kind

namespace Cursor

/-- The end of input has no value. -/
theorem next_eq_atEnd {cursor after : Cursor} {token : Token}
    (step : cursor.next = (token, after)) (isEnd : token.kind = .eof) :
    token = .atEnd token.span := by
  obtain ⟨position, text⟩ := cursor
  cases text with
  | nil =>
      cases step
      rfl
  | cons c rest =>
      cases step
      exact absurd isEnd (Lexeme.read_kind_ne_eof c rest)

/-- A step outside of what is ignored takes the first token that the grammar sees. -/
theorem filter_tokens_of_nextOutside {cursor after : Cursor} {token : Token}
    (step : cursor.nextOutside ignoredKinds = (token, after)) :
    cursor.tokens.filter Token.isSeen =
      if token.kind = .eof then [.atEnd token.span]
      else token :: after.tokens.filter Token.isSeen := by
  fun_induction nextOutside ignoredKinds cursor with
  | case1 cursor first afterFirst firstStep kept =>
      cases step
      by_cases isEnd : token.kind = .eof
      · have seen : token.isSeen = true := by rw [Token.isSeen, isEnd]; rfl
        rw [tokens_of_next firstStep, if_pos isEnd, if_pos isEnd,
          List.filter_cons_of_pos seen, List.filter_nil, ← next_eq_atEnd firstStep isEnd]
      · have seen : token.isSeen = true := by
          rcases kept with isEnd' | isFail | isKept
          · exact absurd isEnd' isEnd
          · rw [Token.isSeen, isFail]
            rfl
          · simpa [Token.isSeen] using isKept
        rw [tokens_of_next firstStep, if_neg isEnd, if_neg isEnd, List.filter_cons_of_pos seen]
  | case2 cursor first afterFirst firstStep skipped shorter inductionHypothesis =>
      simp only [not_or, not_not] at skipped
      have unseen : ¬first.isSeen = true := by simpa [Token.isSeen] using skipped.2.2
      rw [tokens_of_next firstStep, if_neg skipped.1, List.filter_cons_of_neg unseen,
        inductionHypothesis step]

/-- The tokens that the grammar sees are those that the parser gets, and the end of input. -/
theorem filter_tokens (cursor : Cursor) :
    cursor.tokens.filter Token.isSeen =
      cursor.significant.tokens ++ [.atEnd cursor.significant.finalSpan] := by
  fun_induction significant cursor with
  | case1 cursor token after step atEnd =>
      rw [filter_tokens_of_nextOutside step, if_pos atEnd, List.nil_append]
  | case2 cursor token after step notAtEnd shorter others inductionHypothesis =>
      rw [filter_tokens_of_nextOutside step, if_neg notAtEnd, inductionHypothesis,
        List.cons_append]

/-- The tokens that the parser gets of a text have sound words. -/
theorem isSound_of_mem_significant {cursor : Cursor} {token : Token}
    (member : token ∈ cursor.significant.tokens) : token.word.IsSound := by
  have isWord : token.word ∈ words cursor.rest := by
    rw [← cursor.map_word_significant]
    exact List.mem_map_of_mem member
  exact isSound_of_mem_words isWord

end Cursor

/-- A text has the tree that something is computed of. -/
theorem exists_parse_of_map {α : Type} {source : String} {f : Node → α} {value : α}
    (computed : (parse source).map f = .ok value) :
    ∃ tree, parse source = .ok tree ∧ f tree = value := by
  cases parsed : parse source with
  | error error =>
      rw [parsed] at computed
      cases computed
  | ok tree =>
      rw [parsed] at computed
      exact ⟨tree, rfl, Except.ok.inj computed⟩

/-- Whatever is parsed from a text has a derivation of all the tokens that the parser gets
of the text. -/
theorem exists_derivation_of_parse {source : String} {tree : Node}
    (parsed : parse source = .ok tree) :
    ∃ program : Derivation .program,
      (Cursor.ofString source).significant.tokens = program.tokens ∧
      tree = program.tree (Cursor.ofString source).significant.finalSpan := by
  have outcome := TokenStream.parse_outcome (Cursor.ofString source).significant
  rw [show (Cursor.ofString source).significant.parse = .ok tree from parsed] at outcome
  obtain ⟨program, after, reaches, -, isTree⟩ := outcome
  cases after with
  | nil => exact ⟨program, by rw [reaches.split, List.append_nil], isTree⟩
  | cons token others =>
      -- the end of input is no token that is read before it
      have member : token ∈ (Cursor.ofString source).significant.tokens := by
        rw [reaches.split]
        exact List.mem_append_right _ List.mem_cons_self
      have sound := Cursor.isSound_of_mem_significant member
      rw [Token.word, show token.kind = .eof from reaches.atEnd] at sound
      exact sound.elim

end BlockData
