import BlockData.Proofs.Grammar.Alike
import BlockData.Proofs.Lexing.LineEndings
import BlockData.Proofs.Parsing.Stopping
import Mathlib

/-!
# Parsing with other line endings

Offsets only pass through the parser: a block takes the end of its closing bracket, and all
other nodes and errors the places of single tokens. So parsing commutes with forgetting offsets
(`TokenStream.parse_withoutOffsets`), by recursion over the derivation that a stream stops
behind. Texts that differ in their line endings have the same tokens apart from offsets, if no
string is written with a line break, and thus the same trees and errors.
-/

namespace BlockData

/-- A span with its line and its column only. -/
def Span.withoutOffsets (span : Span) : Span :=
  ⟨0, 0, span.line, span.column⟩

/-- A token that stands on a line and in a column only. -/
def Token.withoutOffsets (token : Token) : Token :=
  { token with span := token.span.withoutOffsets }

/-- A stream of tokens that stand on lines and in columns only. -/
def TokenStream.withoutOffsets (stream : TokenStream) : TokenStream :=
  ⟨stream.tokens.map Token.withoutOffsets, stream.finalSpan.withoutOffsets⟩

namespace Node

mutual

/-- A tree whose nodes stand on lines and in columns only. -/
def withoutOffsets : Node → Node
  | .node kind value span children =>
      .node kind value span.withoutOffsets (withoutOffsetsAll children)

/-- Trees whose nodes stand on lines and in columns only. -/
def withoutOffsetsAll : List Node → List Node
  | [] => []
  | tree :: trees => tree.withoutOffsets :: withoutOffsetsAll trees

end

/-- Neighbouring trees stand side by side without their offsets too. -/
theorem withoutOffsetsAll_append (first second : List Node) :
    withoutOffsetsAll (first ++ second) = withoutOffsetsAll first ++ withoutOffsetsAll second := by
  induction first with
  | nil => rfl
  | cons tree trees inductionHypothesis =>
      rw [List.cons_append, withoutOffsetsAll, inductionHypothesis, withoutOffsetsAll,
        List.cons_append]

end Node

namespace Derivation

/-- A derivation of the same tokens without their offsets. -/
def withoutOffsets {phrase : Phrase} : Derivation phrase → Derivation phrase
  | .emptyProgram => .emptyProgram
  | .program first others => .program first.withoutOffsets others.withoutOffsets
  | .expressionStatement child => .expressionStatement child.withoutOffsets
  | .blockStatement child => .blockStatement child.withoutOffsets
  | .blankStatement child => .blankStatement child.withoutOffsets
  | .comment token isComment => .comment token.withoutOffsets isComment
  | .expression head isValue parameters terminator isTerminator =>
      .expression head.withoutOffsets isValue parameters.withoutOffsets terminator.withoutOffsets
        isTerminator
  | .emptyParamlist => .emptyParamlist
  | .paramlist first others => .paramlist first.withoutOffsets others.withoutOffsets
  | .value token isValue => .value token.withoutOffsets isValue
  | .blockParameter child => .blockParameter child.withoutOffsets
  | .block delimiter opened opens inner closed closes =>
      .block delimiter opened.withoutOffsets opens inner.withoutOffsets closed.withoutOffsets closes
  | .blank terminator isTerminator => .blank terminator.withoutOffsets isTerminator

/-- The tokens of the derivation without offsets. -/
theorem tokens_withoutOffsets {phrase : Phrase} (derivation : Derivation phrase) :
    derivation.withoutOffsets.tokens = derivation.tokens.map Token.withoutOffsets := by
  induction derivation with
  | emptyProgram => rfl
  | program first others firstHypothesis othersHypothesis =>
      rw [withoutOffsets, tokens, tokens, firstHypothesis, othersHypothesis, List.map_append]
  | expressionStatement child inductionHypothesis => exact inductionHypothesis
  | blockStatement child inductionHypothesis => exact inductionHypothesis
  | blankStatement child inductionHypothesis => exact inductionHypothesis
  | comment => rfl
  | expression head isValue parameters terminator isTerminator inductionHypothesis =>
      simp only [withoutOffsets, tokens, inductionHypothesis, List.map_cons, List.map_append,
        List.map_nil]
  | emptyParamlist => rfl
  | paramlist first others firstHypothesis othersHypothesis =>
      rw [withoutOffsets, tokens, tokens, firstHypothesis, othersHypothesis, List.map_append]
  | value => rfl
  | blockParameter child inductionHypothesis => exact inductionHypothesis
  | block delimiter opened opens inner closed closes inductionHypothesis =>
      simp only [withoutOffsets, tokens, inductionHypothesis, List.map_cons, List.map_append,
        List.map_nil]
  | blank => rfl

/-- The place of the first of some tokens, or of a token behind them, without offsets. -/
theorem span_headD_map (tokens : List Token) (behind : Token) :
    ((tokens.map Token.withoutOffsets).headD behind.withoutOffsets).span =
      (tokens.headD behind).span.withoutOffsets := by
  cases tokens <;> rfl

/-- The nodes of the derivation without offsets. -/
theorem nodes_withoutOffsets {phrase : Phrase} (derivation : Derivation phrase) :
    derivation.withoutOffsets.nodes = Node.withoutOffsetsAll derivation.nodes := by
  induction derivation with
  | emptyProgram => rfl
  | program first others firstHypothesis othersHypothesis =>
      rw [withoutOffsets, nodes, nodes, firstHypothesis, othersHypothesis,
        Node.withoutOffsetsAll_append]
  | expressionStatement child inductionHypothesis => exact inductionHypothesis
  | blockStatement child inductionHypothesis => exact inductionHypothesis
  | blankStatement => rfl
  | comment => rfl
  | expression head isValue parameters terminator isTerminator inductionHypothesis =>
      simp only [withoutOffsets, nodes, inductionHypothesis, tokens_withoutOffsets,
        span_headD_map]
      rfl
  | emptyParamlist => rfl
  | paramlist first others firstHypothesis othersHypothesis =>
      rw [withoutOffsets, nodes, nodes, firstHypothesis, othersHypothesis,
        Node.withoutOffsetsAll_append]
  | value => rfl
  | blockParameter child inductionHypothesis => exact inductionHypothesis
  | block delimiter opened opens inner closed closes inductionHypothesis =>
      simp only [withoutOffsets, nodes, inductionHypothesis]
      rfl
  | blank => rfl

/-- The tree of the program without offsets. -/
theorem tree_withoutOffsets (program : Derivation .program) (finalSpan : Span) :
    program.withoutOffsets.tree finalSpan.withoutOffsets =
      (program.tree finalSpan).withoutOffsets := by
  have place := span_headD_map program.tokens (.atEnd finalSpan)
  rw [← program.tokens_withoutOffsets] at place
  simp only [tree, Node.withoutOffsets, Node.withoutOffsetsAll, nodes_withoutOffsets, ← place]
  rfl

end Derivation

namespace TokenStream

variable (stream : TokenStream) (position : Nat)

/-- The token at a position of a stream without offsets. -/
theorem token_withoutOffsets :
    stream.withoutOffsets.token position = (stream.token position).withoutOffsets :=
  List.getD_map stream.tokens (.atEnd stream.finalSpan) Token.withoutOffsets

/-- The tokens before a position of a stream without offsets. -/
theorem firstTokens_withoutOffsets : stream.withoutOffsets.firstTokens position =
    (stream.firstTokens position).map Token.withoutOffsets := by
  rw [firstTokens, firstTokens, List.map_map]
  exact List.map_congr_left fun index _ => stream.token_withoutOffsets index

variable {stream position}

/-- Places do not depend on offsets. -/
theorem afterAll?_withoutOffsets (nesting : Nesting) (tokens : List Token) :
    nesting.afterAll? (tokens.map Token.withoutOffsets) = nesting.afterAll? tokens := by
  refine Nesting.afterAll?_congr ?_
  rw [List.map_map]
  rfl

/-- A stream stops at the same position without offsets. -/
theorem StopsAt.withoutOffsets {reached : Nesting} (stops : stream.StopsAt position reached) :
    stream.withoutOffsets.StopsAt position reached where
  walked := by rw [firstTokens_withoutOffsets, afterAll?_withoutOffsets, stops.walked]
  stops := by
    rw [token_withoutOffsets]
    exact stops.stops

/-- Parsing commutes with forgetting offsets. -/
theorem parse_withoutOffsets (stream : TokenStream) :
    stream.withoutOffsets.parse = stream.parse.map Node.withoutOffsets := by
  obtain ⟨position, reached, stops, -⟩ := stream.exists_verdict
  have reported : ∀ position,
      (stream.token position).IsReportedAs (stream.withoutOffsets.token position) := by
    intro position
    rw [token_withoutOffsets]
    exact ⟨rfl, rfl, rfl, rfl⟩
  have programs : ∀ program : Derivation .program, program.tokens = stream.firstTokens position →
      ∃ otherProgram : Derivation .program,
        otherProgram.tokens = stream.withoutOffsets.firstTokens position ∧
          otherProgram = program.withoutOffsets := by
    rintro program derives
    refine ⟨program.withoutOffsets, ?_, rfl⟩
    rw [program.tokens_withoutOffsets, derives, firstTokens_withoutOffsets]
  rcases stops.parse_matching stops.withoutOffsets (reported position)
      (fun _ => reported (position + 1)) programs with
    ⟨error, failed, otherFailed⟩ | ⟨program, otherProgram, parsed, otherParsed, rfl⟩
  · rw [failed, otherFailed, Except.map]
  · rw [parsed, otherParsed, token_withoutOffsets, Except.map, ← program.tree_withoutOffsets]
    rfl

/-- Streams are the same without offsets if the tokens of their texts are. -/
theorem withoutOffsets_significant_congr {source other : String}
    (same : (Cursor.ofString other).tokens.map Token.withoutOffsets =
      (Cursor.ofString source).tokens.map Token.withoutOffsets) :
    (Cursor.ofString other).significant.withoutOffsets =
      (Cursor.ofString source).significant.withoutOffsets := by
  have seen : ∀ text : String,
      ((Cursor.ofString text).tokens.map Token.withoutOffsets).filter Token.isSeen =
        (Cursor.ofString text).significant.withoutOffsets.tokens ++
          [.atEnd (Cursor.ofString text).significant.withoutOffsets.finalSpan] := fun text => by
    have kept := Cursor.filter_tokens (Cursor.ofString text)
    rw [List.filter_map]
    exact (congrArg (List.map Token.withoutOffsets) kept).trans List.map_append
  have sameSeen := (seen other).symm.trans ((congrArg _ same).trans (seen source))
  obtain ⟨sameTokens, sameEnd⟩ := List.append_inj' sameSeen rfl
  have sameSpan := congrArg Token.span (List.singleton_inj.mp sameEnd)
  exact congrArg₂ TokenStream.mk sameTokens sameSpan

end TokenStream

/-- A token is the same with other line endings apart from its offsets, unless it is a string
that is written with a line break. -/
theorem Token.Corresponds.withoutOffsets_eq {ending : LineEnding} {text : List Char}
    {token other : Token} (corresponds : token.Corresponds ending text other)
    (inLine : token.kind = .value .string →
      '\n' ∉ text.extract token.span.start token.span.stop) :
    other.withoutOffsets = token.withoutOffsets := by
  have sameWord := corresponds.word.eq_of_not_mem inLine
  have kind : other.kind = token.kind := congrArg Word.kind sameWord
  have value : other.value = token.value := congrArg Word.value sameWord
  simp only [withoutOffsets, Span.withoutOffsets, kind, value, corresponds.line,
    corresponds.column]

/-- Tokens are the same with other line endings apart from their offsets, if no string is written
with a line break. -/
theorem map_withoutOffsets_eq {ending : LineEnding} {text : List Char} {tokens others : List Token}
    (correspond : List.Forall₂ (Token.Corresponds ending text) tokens others)
    (inLine : ∀ token ∈ tokens, token.kind = .value .string →
      '\n' ∉ text.extract token.span.start token.span.stop) :
    others.map Token.withoutOffsets = tokens.map Token.withoutOffsets := by
  induction correspond with
  | nil => rfl
  | cons first _ inductionHypothesis =>
      obtain ⟨firstInLine, othersInLine⟩ := List.forall_mem_cons.mp inLine
      rw [List.map_cons, List.map_cons, first.withoutOffsets_eq firstInLine,
        inductionHypothesis othersInLine]

/-- Line endings never change what a text says. If a text without carriage returns has no
malformed token, and each of its line feeds is replaced by a carriage return, or by the pair of
both, then the tokens stay the same one by one, on the same lines and in the same columns; only
strings hold their line breaks as they are written. If there are none in strings, then parsing
gives the same tree, on the same lines and in the same columns, or the same error. -/
theorem parse_ignores_line_endings (ending : LineEnding) {source : String}
    (noReturn : '\r' ∉ source.toList)
    (sound : ∀ token ∈ (Cursor.ofString source).tokens, token.isFail = false) :
    List.Forall₂ (Token.Corresponds ending source.toList) (Cursor.ofString source).tokens
        (Cursor.ofString (ending.rewrite source)).tokens ∧
      ((∀ token ∈ (Cursor.ofString source).tokens, token.kind = .value .string →
          '\n' ∉ source.toList.extract token.span.start token.span.stop) →
        (parse (ending.rewrite source)).map Node.withoutOffsets =
          (parse source).map Node.withoutOffsets) := by
  have correspond : List.Forall₂ (Token.Corresponds ending source.toList)
      (Cursor.ofString source).tokens (Cursor.ofString (ending.rewrite source)).tokens := by
    rw [Cursor.ofString_eq] at sound ⊢
    rw [Cursor.ofString_eq, LineEnding.rewrite, String.toList_ofList]
    exact Cursor.tokens_replace ending noReturn sound
  refine ⟨correspond, fun inLine => ?_⟩
  have same := map_withoutOffsets_eq correspond inLine
  rw [parse, parse, ← TokenStream.parse_withoutOffsets, ← TokenStream.parse_withoutOffsets,
    TokenStream.withoutOffsets_significant_congr same]

/-- A string, a joined line and a semicolon, with both characters at the end of the line. -/
theorem parse_ignores_line_endings_of_joined_line :
    let source := "'a'\\\n;"
    '\r' ∉ source.toList ∧
      (∀ token ∈ (Cursor.ofString source).tokens, token.isFail = false) ∧
      (∀ token ∈ (Cursor.ofString source).tokens, token.kind = .value .string →
        '\n' ∉ source.toList.extract token.span.start token.span.stop) ∧
      List.Forall₂ (Token.Corresponds .both source.toList) (Cursor.ofString source).tokens
        (Cursor.ofString (LineEnding.both.rewrite source)).tokens ∧
      (parse (LineEnding.both.rewrite source)).map Node.withoutOffsets =
        (parse source).map Node.withoutOffsets := by
  intro source
  have string : "'a'\\\n;".toList.drop 0 = '\'' :: ['a', '\'', '\\', '\n', ';'] := rfl
  have joined : "'a'\\\n;".toList.drop 3 = '\\' :: ['\n', ';'] := rfl
  have semicolon : "'a'\\\n;".toList.drop 5 = ';' :: [] := rfl
  have stream : (Cursor.ofString source).tokens =
      _ :: _ :: _ :: [endToken "'a'\\\n;".toList] :=
    (Cursor.tokens_ofOffset string).trans (congrArg _ ((Cursor.tokens_ofOffset joined).trans
      (congrArg _ ((Cursor.tokens_ofOffset semicolon).trans
        (congrArg _ (Cursor.tokens_end "'a'\\\n;".toList))))))
  have noReturn : '\r' ∉ source.toList := by decide
  have sound : ∀ token ∈ (Cursor.ofString source).tokens, token.isFail = false := by
    rw [stream]
    decide
  have inLine : ∀ token ∈ (Cursor.ofString source).tokens, token.kind = .value .string →
      '\n' ∉ source.toList.extract token.span.start token.span.stop := by
    rw [stream]
    decide
  obtain ⟨correspond, sameTree⟩ := parse_ignores_line_endings .both noReturn sound
  exact ⟨noReturn, sound, inLine, correspond, sameTree inLine⟩

end BlockData
