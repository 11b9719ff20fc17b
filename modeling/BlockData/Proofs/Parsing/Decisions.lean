import BlockData.Proofs.Grammar.Alike
import BlockData.Proofs.Parsing.Stopping
import Mathlib

/-!
# Decisions of the parser

The parser looks at the kinds of tokens only, and takes the two terminators for one. So
streams of the same merged kinds stop at the same position with the same verdict
(`TokenStream.AgreesWith.parse_alike`). Values and places only pass through: into the leaves
of the tree, each from the token that it stands for, or into the place of the error.
-/

namespace BlockData

/-- Two streams have the same merged kinds, position by position. This is asked for as far
as streams are read: up to the token behind the first end of input. -/
def TokenStream.AgreesWith (first second : TokenStream) : Prop :=
  ∀ position, (∀ earlier, earlier + 1 < position → (first.token earlier).kind ≠ .eof) →
    (first.token position).mergedKind = (second.token position).mergedKind

namespace ParseError

/-- The token that an error reports. -/
inductive IsAbout (token : Token) : ParseError → Prop where
  /-- A malformed token. -/
  | lexical (malformed : token.isFail = true) : IsAbout token (.lexical (.ofToken token))
  /-- A token that may not stand where it does. -/
  | unexpected (wanted : Wanted) :
      IsAbout token (.unexpected token.kind wanted token.span.line token.span.column)

/-- Errors that say the same apart from places: both are about malformed input, or both
name the same kind of token and what was wanted in its place. -/
inductive SaysSame : ParseError → ParseError → Prop where
  | lexical (first second : LexicalError) : SaysSame (.lexical first) (.lexical second)
  | unexpected (found : Kind) (wanted : Wanted) (line column otherLine otherColumn : Nat) :
      SaysSame (.unexpected found wanted line column)
        (.unexpected found wanted otherLine otherColumn)

end ParseError

/-- Whether a token is malformed can be seen from its merged kind. -/
theorem Token.isFail_congr {token other : Token} (same : token.mergedKind = other.mergedKind) :
    token.isFail = other.isFail := by
  have seen : ∀ token : Token, token.isFail = (token.mergedKind == .fail) := by
    rintro ⟨kind, value, span⟩
    cases kind <;> rfl
  rw [seen, seen, same]

namespace TokenStream

/-- No end of input stands before the position where a stream stops. -/
theorem StopsAt.kind_ne_eof {stream : TokenStream} {position : Nat} {reached : Nesting}
    (stops : stream.StopsAt position reached) {earlier : Nat} (before : earlier < position) :
    (stream.token earlier).kind ≠ .eof := by
  have member : stream.token earlier ∈ stream.firstTokens position :=
    List.mem_map_of_mem (List.mem_range.mpr before)
  exact (areClean_of_afterAll? stops.walked _ member).1

namespace AgreesWith

variable {first second : TokenStream} {position : Nat} {reached : Nesting}

/-- Streams agree up to one position behind the one where the first of them stops. -/
theorem mergedKind_eq (agree : first.AgreesWith second) (stops : first.StopsAt position reached)
    {index : Nat} (inside : index ≤ position + 1) :
    (first.token index).mergedKind = (second.token index).mergedKind :=
  agree index fun _ before => stops.kind_ne_eof (by omega)

/-- Streams agree in the tokens before the position where the first of them stops. -/
theorem map_mergedKind_eq (agree : first.AgreesWith second)
    (stops : first.StopsAt position reached) :
    (first.firstTokens position).map Token.mergedKind =
      (second.firstTokens position).map Token.mergedKind := by
  rw [firstTokens, firstTokens, List.map_map, List.map_map]
  exact List.map_congr_left fun index member =>
    agree.mergedKind_eq stops (Nat.le_succ_of_le (List.mem_range.mp member).le)

/-- Streams that agree stop at the same position. -/
theorem stopsAt (agree : first.AgreesWith second) (stops : first.StopsAt position reached) :
    second.StopsAt position reached where
  walked := by rw [← Nesting.afterAll?_congr (agree.map_mergedKind_eq stops), stops.walked]
  stops := by
    have same := agree.mergedKind_eq stops (Nat.le_succ position)
    rw [← Nesting.after?_merged, ← stops.stops,
      ← Nesting.after?_merged _ (first.token position).kind]
    exact congrArg reached.after? same.symm

/-- Where a stream stops it agrees even in the kind, since no terminator is refused. -/
theorem kind_eq (agree : first.AgreesWith second) (stops : first.StopsAt position reached) :
    (first.token position).kind = (second.token position).kind := by
  refine (Kind.eq_of_merged (agree.mergedKind_eq stops (Nat.le_succ position)).symm ?_).symm
  rw [← Bool.not_eq_true]
  intro isTerminator
  have passed := Nesting.after?_of_isTerminator reached isTerminator
  rw [stops.stops] at passed
  cases passed

/-- Streams that agree are both programs up to the same position, or are both refused at the
same token for the same reason. -/
theorem parse_alike (agree : first.AgreesWith second) :
    (∃ position, ∃ program other : Derivation .program,
        program.tokens = first.firstTokens position ∧ other.tokens = second.firstTokens position ∧
        program.tokens.map Token.mergedKind = other.tokens.map Token.mergedKind ∧
        first.parse = .ok (program.tree (first.token position).span) ∧
        second.parse = .ok (other.tree (second.token position).span)) ∨
      ∃ position error other, first.parse = .error error ∧ second.parse = .error other ∧
        first.IsRefusedAt position ∧ second.IsRefusedAt position ∧
        error.IsAbout (first.token position) ∧ other.IsAbout (second.token position) ∧
        error.SaysSame other := by
  obtain ⟨position, reached, stops, verdict⟩ := first.exists_verdict
  have otherStops := agree.stopsAt stops
  have sameKind := agree.kind_eq stops
  have sameFail := Token.isFail_congr (agree.mergedKind_eq stops (Nat.le_succ position))
  have sameFailBehind := Token.isFail_congr (agree.mergedKind_eq stops (Nat.le_refl _))
  generalize isParsed : first.parse = parsed at verdict
  cases verdict with
  | tree program derives atEnd sound =>
      obtain ⟨other, otherDerives⟩ := isProgram_iff.mpr otherStops.walked
      refine .inl ⟨position, program, other, derives, otherDerives, ?_, rfl, ?_⟩
      · rw [derives, otherDerives, agree.map_mergedKind_eq stops]
      · exact parse_eq_of_verdict otherStops
          (.tree other otherDerives (sameKind ▸ atEnd) (sameFailBehind ▸ sound))
  | malformedBehind atEnd malformed =>
      have otherAtEnd := sameKind ▸ atEnd
      have otherMalformed := sameFailBehind ▸ malformed
      exact .inr ⟨position + 1, _, _, rfl,
        parse_eq_of_verdict otherStops (.malformedBehind otherAtEnd otherMalformed),
        stops.isRefusedAt_succ atEnd malformed,
        otherStops.isRefusedAt_succ otherAtEnd otherMalformed,
        .lexical malformed, .lexical otherMalformed, .lexical _ _⟩
  | malformed _ malformed =>
      have otherMalformed := sameFail ▸ malformed
      have refused := admits_of_isFail reached malformed
      exact .inr ⟨position, _, _, rfl,
        parse_eq_of_verdict otherStops (.malformed reached otherMalformed),
        stops.isRefusedAt refused, otherStops.isRefusedAt (sameKind ▸ refused),
        .lexical malformed, .lexical otherMalformed, .lexical _ _⟩
  | unexpected _ sound refused =>
      have otherRefused := sameKind ▸ refused
      refine .inr ⟨position, _, _, rfl,
        parse_eq_of_verdict otherStops (.unexpected reached (sameFail ▸ sound) otherRefused),
        stops.isRefusedAt refused, otherStops.isRefusedAt otherRefused,
        .unexpected _, .unexpected _, ?_⟩
      rw [← sameKind]
      exact .unexpected ..

end AgreesWith

/-- The leaves of a program are the tokens of a stream at certain positions. -/
theorem leaves_tree {stream : TokenStream} {position : Nat} {program : Derivation .program}
    (derives : program.tokens = stream.firstTokens position) (finalSpan : Span) :
    (program.tree finalSpan).leaves =
      ((List.range position).filter fun index => (stream.token index).kind.isKept).map
        stream.token := by
  have below : (program.tree finalSpan).leaves = Node.leavesAll program.nodes := by
    simp only [Derivation.tree, Node.leaves, Node.leavesAll, List.append_nil]
  rw [below, program.leavesAll_nodes, derives, firstTokens, List.filter_map]
  rfl

/-- The parser decides by kinds only and takes the two terminators for one. Streams that agree
in this both have trees, of the same kinds node by node and with the same order of children,
whose leaves are the tokens at the same positions of each stream. Or both fail at the same
position, the first one that no accepted stream goes on with, each with an error about its
own token there, and the errors say the same. -/
theorem parse_decides_by_kinds {first second : TokenStream} (agree : first.AgreesWith second) :
    (∃ (tree other : Node) (positions : List Nat),
        first.parse = .ok tree ∧ second.parse = .ok other ∧
        tree.skeleton = other.skeleton ∧ positions.Pairwise (· < ·) ∧
        tree.leaves = positions.map first.token ∧ other.leaves = positions.map second.token) ∨
      ∃ position error other, first.parse = .error error ∧ second.parse = .error other ∧
        first.IsRefusedAt position ∧ second.IsRefusedAt position ∧
        error.IsAbout (first.token position) ∧ other.IsAbout (second.token position) ∧
        error.SaysSame other := by
  rcases agree.parse_alike with
    ⟨position, program, other, derives, otherDerives, same, parsed, otherParsed⟩ | refused
  · refine .inl ⟨_, _, (List.range position).filter fun index => (first.token index).kind.isKept,
      parsed, otherParsed, ?_, List.pairwise_lt_range.filter _, ?_, ?_⟩
    · have shown : program.tokens.map (Token.shown fun _ => none) =
          other.tokens.map (Token.shown fun _ => none) := by
        have pairs := congrArg (List.map fun kind => (kind, (none : Option Value))) same
        rwa [List.map_map, List.map_map] at pairs
      simp only [Derivation.tree, Node.skeleton, Node.viewed, Node.viewedAll,
        Derivation.viewedAll_nodes_congr shown]
    · exact leaves_tree derives _
    · rw [leaves_tree otherDerives]
      refine congrArg _ (List.filter_congr fun index member => ?_)
      rw [derives, otherDerives, firstTokens, firstTokens, List.map_map, List.map_map,
        List.map_inj_left] at same
      have sameKind : (first.token index).kind.merged = (second.token index).kind.merged :=
        same index member
      rw [← Kind.isKept_merged, ← sameKind, Kind.isKept_merged]
  · exact .inr refused

/-- A line and the same line with a semicolon, another value and something else behind the
end of input are parsed alike. -/
theorem parse_decides_by_kinds_of_line :
    let head := Nesting.bareToken (.value .integer)
    let first : TokenStream :=
      ⟨[head, Nesting.bareToken (.terminator .newline), Nesting.bareToken .eof,
        Nesting.bareToken .comment, Nesting.bareToken .comment], ⟨0, 0, 1, 1⟩⟩
    let second : TokenStream :=
      ⟨[{ head with value := some (.integer 7) }, Nesting.bareToken (.terminator .semicolon),
        Nesting.bareToken .eof, Nesting.bareToken .comment], ⟨9, 9, 2, 1⟩⟩
    first.AgreesWith second ∧
      ((∃ (tree other : Node) (positions : List Nat), first.parse = .ok tree ∧
          second.parse = .ok other ∧
          tree.skeleton = other.skeleton ∧ positions.Pairwise (· < ·) ∧
          tree.leaves = positions.map first.token ∧ other.leaves = positions.map second.token) ∨
        ∃ position error other, first.parse = .error error ∧ second.parse = .error other ∧
          first.IsRefusedAt position ∧ second.IsRefusedAt position ∧
          error.IsAbout (first.token position) ∧ other.IsAbout (second.token position) ∧
          error.SaysSame other) := by
  intro head first second
  have agree : first.AgreesWith second := by
    intro position reached
    match position with
    | 0 => rfl
    | 1 => rfl
    | 2 => rfl
    | 3 => rfl
    | later + 4 => exact absurd rfl (reached 2 (by omega))
  exact ⟨agree, parse_decides_by_kinds agree⟩

end TokenStream

end BlockData
