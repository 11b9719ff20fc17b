import BlockData.Proofs.Parsing.Source
import BlockData.Proofs.Parsing.Stopping
import Mathlib

/-!
# Malformed texts

Reading all tokens of a text fails at the first malformed one. Parsing the text pulls its
tokens one by one, so it fails there as well, unless it has failed before: which of the two
it is depends on whether the tokens in front can be continued to an accepted stream.
-/

namespace BlockData

/-- Reading all tokens of a text succeeds if none of them is malformed. -/
theorem find?_isFail_of_tokenize_eq_ok {source : String} {tokens : List Token}
    (isOk : tokenize source = .ok tokens) :
    (Cursor.ofString source).tokens.find? Token.isFail = none := by
  unfold tokenize at isOk
  dsimp only at isOk
  split at isOk
  · cases isOk
  · assumption

/-- Reading all tokens of a text fails at the first malformed one. -/
theorem find?_isFail_of_tokenize_eq_error {source : String} {error : LexicalError}
    (isError : tokenize source = .error error) :
    ∃ malformed, (Cursor.ofString source).tokens.find? Token.isFail = some malformed ∧
      error = .ofToken malformed := by
  unfold tokenize at isError
  dsimp only at isError
  split at isError
  · rename_i malformed isFirst
    cases isError
    exact ⟨malformed, isFirst, rfl⟩
  · cases isError

/-- A malformed token is seen by the grammar. -/
theorem Token.isSeen_of_isFail {token : Token} (malformed : token.isFail = true) :
    token.isSeen = true := by
  rw [isSeen, beq_iff_eq.mp malformed]
  rfl

namespace Cursor

/-- The end of input is not among the tokens that the parser gets of a text. -/
theorem kind_ne_eof_of_mem_significant {cursor : Cursor} {token : Token}
    (member : token ∈ cursor.significant.tokens) : token.kind ≠ .eof := by
  intro isEnd
  have sound := isSound_of_mem_significant member
  rw [Token.word, isEnd] at sound
  exact sound

/-- All that the parser may come upon are tokens of the text. -/
theorem token_significant_mem (cursor : Cursor) (position : Nat) :
    cursor.significant.token position ∈ cursor.tokens := by
  have member : cursor.significant.token position ∈
      cursor.significant.tokens ++ [.atEnd cursor.significant.finalSpan] := by
    rw [TokenStream.token, List.getD_eq_getElem?_getD]
    cases listed : cursor.significant.tokens[position]? with
    | none => exact List.mem_append_right _ (List.mem_singleton.mpr rfl)
    | some token => exact List.mem_append_left _ (List.mem_of_getElem? listed)
  rw [← cursor.filter_tokens] at member
  exact List.mem_of_mem_filter member

/-- The tokens that the parser gets of a text up to a malformed one are those that the
grammar sees. -/
theorem exists_significant_eq {cursor : Cursor} {before after : List Token} {malformed : Token}
    (split : cursor.tokens = before ++ malformed :: after) (isFail : malformed.isFail = true) :
    ∃ others, cursor.significant.tokens =
      before.filter Token.isSeen ++ malformed :: others := by
  have seen := cursor.filter_tokens
  rw [split, List.filter_append, List.filter_cons_of_pos (Token.isSeen_of_isFail isFail)] at seen
  rcases List.eq_nil_or_concat (after.filter Token.isSeen) with none | ⟨others, last, isConcat⟩
  · -- the last token of a text is its end, and that is not malformed
    rw [none] at seen
    obtain ⟨-, isEnd⟩ := List.append_inj' seen rfl
    rw [(List.cons.inj isEnd).1] at isFail
    cases isFail
  · rw [isConcat, List.concat_eq_append, ← List.cons_append, ← List.append_assoc] at seen
    exact ⟨others, (List.append_inj' seen rfl).1.symm⟩

end Cursor

/-- Parsing a text fails lexically only if one of its tokens is malformed. -/
theorem exists_isFail_of_parse {source : String} {error : LexicalError}
    (failed : parse source = .error (.lexical error)) :
    ∃ token ∈ (Cursor.ofString source).tokens, token.isFail = true := by
  obtain ⟨position, reached, -, verdict⟩ := (Cursor.ofString source).significant.exists_verdict
  rw [show (Cursor.ofString source).significant.parse = .error (.lexical error) from failed]
    at verdict
  cases verdict with
  | malformedBehind atEnd malformed => exact ⟨_, Cursor.token_significant_mem _ _, malformed⟩
  | malformed _ malformed => exact ⟨_, Cursor.token_significant_mem _ _, malformed⟩

/-- What parsing a text gives if the tokens before the first malformed one can be continued,
and if they cannot. -/
theorem parse_of_malformed {source : String} {before after : List Token} {malformed : Token}
    (split : (Cursor.ofString source).tokens = before ++ malformed :: after)
    (sound : ∀ token ∈ before, token.isFail = false) (isFail : malformed.isFail = true) :
    (StartsAccepted (before.filter Token.isSeen) ∧
        parse source = .error (.lexical (.ofToken malformed))) ∨
      ¬StartsAccepted (before.filter Token.isSeen) ∧ ∃ found ∈ before, ∃ wanted,
        parse source =
          .error (.unexpected found.kind wanted found.span.line found.span.column) := by
  let stream := (Cursor.ofString source).significant
  obtain ⟨others, isStream⟩ := Cursor.exists_significant_eq split isFail
  have atMalformed : stream.token (before.filter Token.isSeen).length = malformed :=
    TokenStream.token_length_of_split isStream
  have inFront := TokenStream.firstTokens_of_split isStream
  obtain ⟨position, reached, stops, verdict⟩ := stream.exists_verdict
  rcases Nat.lt_trichotomy position (before.filter Token.isSeen).length with earlier | rfl | later
  · obtain ⟨more, isFront⟩ := stream.exists_firstTokens_eq position earlier
    rw [inFront] at isFront
    have inBefore : stream.token position ∈ before.filter Token.isSeen := by
      rw [isFront]
      exact List.mem_append_right _ List.mem_cons_self
    have listed : stream.token position ∈ stream.tokens := by
      rw [isStream]
      exact List.mem_append_left _ inBefore
    have notAtEnd := Cursor.kind_ne_eof_of_mem_significant listed
    have notMalformed := sound _ (List.mem_of_mem_filter inBefore)
    generalize isParsed : stream.parse = parsed at verdict
    cases verdict with
    | tree _ _ atEnd => exact absurd atEnd notAtEnd
    | malformedBehind atEnd => exact absurd atEnd notAtEnd
    | malformed _ malformed => simp [notMalformed] at malformed
    | unexpected _ _ refused =>
        refine .inr ⟨fun starts => (stops.isRefusedAt refused).2 ?_, stream.token position,
          List.mem_of_mem_filter inBefore, _, isParsed⟩
        rw [isFront, ← List.singleton_append, ← List.append_assoc] at starts
        rw [TokenStream.firstTokens_succ]
        exact TokenStream.startsAccepted_of_append starts
  · refine .inl ⟨?_, ?_⟩
    · rw [← inFront]
      exact startsAccepted_of_afterAll? stops.walked
    · rw [← atMalformed]
      exact TokenStream.parse_eq_of_verdict stops (.malformed reached (by rwa [atMalformed]))
  · -- the walk would have to pass the malformed token
    obtain ⟨more, isFront⟩ := stream.exists_firstTokens_eq _ later
    have clean := areClean_of_afterAll? stops.walked malformed
      (by rw [isFront, atMalformed]; exact List.mem_append_right _ List.mem_cons_self)
    exact absurd (beq_iff_eq.mp isFail) clean.2

/-- Reading all tokens of a text and parsing the text agree on malformed input. If no token
is malformed, then parsing gives a tree or finds a token that may not stand where it does.
Otherwise parsing fails too. It fails with the same error exactly if the tokens before the
first malformed one, without those that the grammar never sees, can be continued to an
accepted stream, and else with an error about one of these tokens. -/
theorem parse_agrees_with_tokenize (source : String) :
    (∀ tokens, tokenize source = .ok tokens → (∃ tree, parse source = .ok tree) ∨
        ∃ found wanted line column,
          parse source = .error (.unexpected found wanted line column)) ∧
      ∀ error, tokenize source = .error error → ∃ before malformed after,
        (Cursor.ofString source).tokens = before ++ malformed :: after ∧
        (∀ token ∈ before, token.isFail = false) ∧ malformed.isFail = true ∧
        error = .ofToken malformed ∧
        (parse source = .error (.lexical error) ↔ StartsAccepted (before.filter Token.isSeen)) ∧
        (parse source = .error (.lexical error) ∨
          ∃ earlier found later wanted, before = earlier ++ found :: later ∧
            parse source =
              .error (.unexpected found.kind wanted found.span.line found.span.column)) := by
  constructor
  · intro tokens isOk
    cases isParsed : parse source with
    | ok tree => exact .inl ⟨tree, rfl⟩
    | error error =>
        cases error with
        | unexpected found wanted line column => exact .inr ⟨found, wanted, line, column, rfl⟩
        | lexical error =>
            obtain ⟨token, member, malformed⟩ := exists_isFail_of_parse isParsed
            have sound := List.find?_eq_none.mp (find?_isFail_of_tokenize_eq_ok isOk)
            exact absurd malformed (sound token member)
  · intro error isError
    obtain ⟨malformed, isFirst, rfl⟩ := find?_isFail_of_tokenize_eq_error isError
    obtain ⟨isFail, before, after, split, sound⟩ := List.find?_eq_some_iff_append.mp isFirst
    have allSound : ∀ token ∈ before, token.isFail = false := fun token member => by
      simpa using sound token member
    refine ⟨before, malformed, after, split, allSound, isFail, rfl, ?_⟩
    rcases parse_of_malformed split allSound isFail with
      ⟨starts, failed⟩ | ⟨stuck, found, member, wanted, failed⟩
    · exact ⟨⟨fun _ => starts, fun _ => failed⟩, .inl failed⟩
    · obtain ⟨earlier, later, isBefore⟩ := List.append_of_mem member
      refine ⟨⟨fun lexical => ?_, fun starts => absurd starts stuck⟩,
        .inr ⟨earlier, found, later, wanted, isBefore, failed⟩⟩
      rw [failed] at lexical
      cases lexical

/-- A bracket that closes nothing, in front of the end of the line and in front of a stray
backslash. -/
theorem parse_agrees_with_tokenize_behind_bracket :
    let error : LexicalError := ⟨Flaw.strayBackslash.message, 1, 2⟩
    (∃ tokens, tokenize ")\n" = .ok tokens ∧ ((∃ tree, parse ")\n" = .ok tree) ∨
      ∃ found wanted line column,
        parse ")\n" = .error (.unexpected found wanted line column))) ∧
      tokenize ")\\" = .error error ∧ ∃ before malformed after,
        (Cursor.ofString ")\\").tokens = before ++ malformed :: after ∧
        (∀ token ∈ before, token.isFail = false) ∧ malformed.isFail = true ∧
        error = .ofToken malformed ∧
        (parse ")\\" = .error (.lexical error) ↔ StartsAccepted (before.filter Token.isSeen)) ∧
        (parse ")\\" = .error (.lexical error) ∨
          ∃ earlier found later wanted, before = earlier ++ found :: later ∧
            parse ")\\" =
              .error (.unexpected found.kind wanted found.span.line found.span.column)) := by
  intro error
  obtain ⟨tokens, isOk⟩ : ∃ tokens, tokenize ")\n" = .ok tokens := by
    constructor
    cbv
  have bracket : ")\\".toList.drop 0 = ')' :: ['\\'] := rfl
  have backslash : ")\\".toList.drop 1 = '\\' :: [] := rfl
  have stream : (Cursor.ofString ")\\").tokens = _ :: _ :: _ :=
    (Cursor.tokens_ofOffset bracket).trans (congrArg _ (Cursor.tokens_ofOffset backslash))
  have isError : tokenize ")\\" = .error error := by
    rw [tokenize, stream]
    rfl
  exact ⟨⟨tokens, isOk, (parse_agrees_with_tokenize ")\n").1 tokens isOk⟩, isError,
    (parse_agrees_with_tokenize ")\\").2 error isError⟩

end BlockData
