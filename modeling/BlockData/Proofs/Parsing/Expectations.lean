import BlockData.Proofs.Parsing.Stopping
import Mathlib

/-!
# Expected kinds

The kinds that an error reports as expected are what some accepted stream goes on with in
place of the refused token: behind tokens that may stand where they do, the tokens that go on
are those that the place admits (`startsAccepted_append_iff`), and it admits what is wanted
there (`Nesting.admits_of_expected`). One kind is reported without that. If the input ends in an
expression within a block, then the closing bracket of the block is missing as well as the
terminator; it is reported behind the terminators, and goes on behind one of them only.
-/

namespace BlockData

/-- Some accepted stream goes on with a token exactly if the place in front of it admits
the token. -/
theorem startsAccepted_append_iff {before : List Token} {token : Token} {reached : Nesting}
    (walked : Nesting.top.afterAll? before = some reached) :
    StartsAccepted (before ++ [token]) ↔ reached.admits token.kind = true := by
  constructor
  · intro starts
    by_contra refused
    exact not_startsAccepted_of_not_admits walked (Bool.eq_false_iff.mpr refused) starts
  · intro admitted
    rw [Nesting.admits, Bool.or_eq_true, Bool.and_eq_true, beq_iff_eq, beq_iff_eq] at admitted
    rcases admitted with passes | ⟨rfl, atEnd⟩
    · obtain ⟨next, stepped⟩ := Option.isSome_iff_exists.mp passes
      have walkedOn : Nesting.top.afterAll? (before ++ [token]) = some next := by
        simp [Nesting.afterAll?_append, walked, stepped]
      exact startsAccepted_of_afterAll? walkedOn
    · have isEnd : AreEnds [token] := fun other member => by
        rw [List.mem_singleton.mp member, atEnd]
      obtain ⟨tree, accepted⟩ := TokenStream.exists_parse_eq_ok ⟨0, 0, 1, 1⟩ walked isEnd
      exact ⟨[], _, tree, by rwa [List.append_nil]⟩

namespace Nesting

variable {nesting : Nesting} {found kind : Kind}

/-- A place admits all terminators. -/
theorem admits_of_isTerminator (nesting : Nesting) (isTerminator : kind.isTerminator = true) :
    nesting.admits kind = true := by
  simp [admits, after?_of_isTerminator nesting isTerminator]

/-- A place admits what is expected there, unless that is the closing bracket of a block in
which the input ends in an expression. -/
theorem admits_of_expected (expected : kind ∈ (nesting.wanted found).expected) :
    nesting.admits kind = true ∨ ∃ innermost asParameter outer, found = .eof ∧
      nesting = ⟨true, (innermost, asParameter) :: outer⟩ ∧ kind = .closing innermost := by
  obtain ⟨inExpression, enclosing⟩ := nesting
  cases inExpression with
  | true =>
      by_cases atEnd : found = .eof
      · have isWanted : wanted ⟨true, enclosing⟩ found =
            .restOfExpression (openBlocks ⟨true, enclosing⟩).head? := by simp [wanted, atEnd]
        rw [isWanted] at expected
        cases enclosing with
        | nil => exact .inl (admits_of_isTerminator _ (Parsing.isTerminator_of_mem expected))
        | cons block outer =>
            rcases List.mem_append.mp expected with isTerminator | isClosing
            · exact .inl (admits_of_isTerminator _ (Parsing.isTerminator_of_mem isTerminator))
            · exact .inr ⟨block.1, block.2, outer, atEnd, rfl, List.mem_singleton.mp isClosing⟩
      · have isWanted : wanted ⟨true, enclosing⟩ found = .parameter := by simp [wanted, atEnd]
        rw [isWanted] at expected
        cases expected
  | false =>
      by_cases ends : found.endsProgram = true
      · left
        cases enclosing with
        | nil =>
            have isWanted : wanted ⟨false, []⟩ found = .oneOf [.eof] := by
              simp [wanted, ends, openBlocks]
            rw [isWanted] at expected
            rw [List.mem_singleton.mp expected]
            rfl
        | cons block outer =>
            have isWanted : wanted ⟨false, block :: outer⟩ found = .oneOf [.closing block.1] := by
              simp [wanted, ends, openBlocks]
            rw [isWanted] at expected
            rw [List.mem_singleton.mp expected, admits, after?_closing]
            rfl
      · have isWanted : wanted ⟨false, enclosing⟩ found = .statement := by simp [wanted, ends]
        rw [isWanted] at expected
        cases expected

end Nesting

namespace TokenStream

/-- The input ends in an expression within a block: the closing bracket is expected, but no
accepted stream goes on with it. -/
theorem closing_expected_not_accepted :
    let stream : TokenStream :=
      ⟨[Nesting.bareToken (.opening .curly), Nesting.bareToken (.value .symbol)], ⟨0, 0, 1, 1⟩⟩
    let wanted := Wanted.restOfExpression (some .curly)
    (∀ token ∈ stream.tokens, token.isFail = false) ∧
      stream.parse = .error (.unexpected .eof wanted 1 1) ∧ stream.IsRefusedAt 2 ∧
      .closing .curly ∈ wanted.expected ∧
      ¬∃ token : Token, token.kind = .closing .curly ∧
        StartsAccepted (stream.firstTokens 2 ++ [token]) := by
  intro stream wanted
  have walked : Nesting.top.afterAll? (stream.firstTokens 2) =
      some ⟨true, [(.curly, false)]⟩ := rfl
  have stops : stream.StopsAt 2 ⟨true, [(.curly, false)]⟩ := ⟨walked, rfl⟩
  refine ⟨by decide, by cbv, stops.isRefusedAt rfl, by decide, ?_⟩
  rintro ⟨token, closes, starts⟩
  rw [startsAccepted_append_iff walked, closes] at starts
  revert starts
  decide

/-- Expected kinds can be trusted. If a stream is refused at some position, for a token that may
not stand there, then a token of any kind that is reported as expected would go on there with the
tokens in front. One kind is reported although it would not: where the input ends in an expression
within a block, the closing bracket of the innermost block that is open. It would go on behind
any of the terminators that are expected with it. -/
theorem expected_kinds_are_accepted {stream : TokenStream} {found : Kind} {wanted : Wanted}
    {line column : Nat} (failed : stream.parse = .error (.unexpected found wanted line column)) :
    ∃ position, stream.IsRefusedAt position ∧ found = (stream.token position).kind ∧
      line = (stream.token position).span.line ∧ column = (stream.token position).span.column ∧
      ∀ token : Token, token.kind ∈ wanted.expected →
        StartsAccepted (stream.firstTokens position ++ [token]) ∨
        ¬StartsAccepted (stream.firstTokens position ++ [token]) ∧
          ∃ innermost, found = .eof ∧
            (leftOpen [] (stream.firstTokens position)).head? = some innermost ∧
            wanted = .restOfExpression (some innermost) ∧ token.kind = .closing innermost ∧
            ∀ terminator : Token, terminator.kind ∈ terminatorKinds →
              StartsAccepted (stream.firstTokens position ++ [terminator] ++ [token]) := by
  obtain ⟨position, reached, stops, verdict⟩ := stream.exists_verdict
  rw [failed] at verdict
  cases verdict with
  | unexpected _ sound refused =>
      refine ⟨position, stops.isRefusedAt refused, rfl, rfl, rfl, fun token expected => ?_⟩
      rcases Nesting.admits_of_expected expected with admitted |
        ⟨innermost, asParameter, outer, atEnd, rfl, closes⟩
      · exact .inl ((startsAccepted_append_iff stops.walked).mpr admitted)
      · right
        have isOpen := Nesting.openBlocks_eq_leftOpen stops.walked
        refine ⟨?_, innermost, atEnd, ?_, ?_, closes, fun terminator isTerminator => ?_⟩
        · rw [startsAccepted_append_iff stops.walked, closes]
          simp [Nesting.admits, Nesting.after?, Nesting.top]
        · exact congrArg List.head? isOpen.symm
        · simp [Nesting.wanted, atEnd, Nesting.openBlocks]
        · have walked : Nesting.top.afterAll? (stream.firstTokens position ++ [terminator]) =
              some ⟨false, (innermost, asParameter) :: outer⟩ := by
            simp [Nesting.afterAll?_append, stops.walked,
              Nesting.after?_of_isTerminator _ (Parsing.isTerminator_of_mem isTerminator)]
          rw [startsAccepted_append_iff walked, closes, Nesting.admits, Nesting.after?_closing]
          rfl

/-- Three kinds are expected where the input ends in a block of an expression of another block. -/
theorem expected_kinds_are_accepted_in_nested_block :
    let stream : TokenStream :=
      ⟨[Nesting.bareToken (.opening .paren), Nesting.bareToken (.value .symbol),
        Nesting.bareToken (.opening .curly), Nesting.bareToken (.value .symbol)], ⟨4, 4, 2, 1⟩⟩
    let wanted := Wanted.restOfExpression (some .curly)
    stream.parse = .error (.unexpected .eof wanted 2 1) ∧
      ∃ position, stream.IsRefusedAt position ∧ Kind.eof = (stream.token position).kind ∧
        2 = (stream.token position).span.line ∧ 1 = (stream.token position).span.column ∧
        ∀ token : Token, token.kind ∈ wanted.expected →
          StartsAccepted (stream.firstTokens position ++ [token]) ∨
          ¬StartsAccepted (stream.firstTokens position ++ [token]) ∧
            ∃ innermost, Kind.eof = .eof ∧
              (leftOpen [] (stream.firstTokens position)).head? = some innermost ∧
              wanted = .restOfExpression (some innermost) ∧ token.kind = .closing innermost ∧
              ∀ terminator : Token, terminator.kind ∈ terminatorKinds →
                StartsAccepted (stream.firstTokens position ++ [terminator] ++ [token]) := by
  intro stream wanted
  have failed : stream.parse = .error (.unexpected .eof wanted 2 1) := by cbv
  exact ⟨failed, expected_kinds_are_accepted failed⟩

end TokenStream

end BlockData
