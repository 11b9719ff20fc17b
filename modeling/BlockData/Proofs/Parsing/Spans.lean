import BlockData.Proofs.Parsing.Concatenation
import BlockData.Proofs.Tree.Spans
import Mathlib

/-!
# Spans of parsed trees

The nodes of a derivation take their places from tokens: a leaf from its own one, a list of
parameters from the first token that may belong to it, even if that is the terminator behind,
and a block from both of its brackets. Since the tokens stand one behind the other, so do the
nodes, by induction on the derivation (`Derivation.isSpread`).
-/

namespace BlockData

/-- A leaf lies where its token stands. -/
theorem IsSpread.leaf {text : List Char} {first last : Nat} {token : Token}
    (begins : first ≤ token.span.start) (stands : token.StandsIn text)
    (ends : token.span.stop ≤ last) : IsSpread text first last [.ofToken token] :=
  .cons begins ends stands.placed nofun (.nil (Nat.le_trans stands.placed.ordered ends))
    (.nil (Nat.le_refl _))

/-- The nodes of a derivation lie where its tokens stand. -/
theorem Derivation.isSpread {text : List Char} {phrase : Phrase} (derivation : Derivation phrase)
    {first last : Nat} (lie : LieWithin text first last derivation.tokens) :
    IsSpread text first last derivation.nodes := by
  induction derivation generalizing first last with
  | emptyProgram => exact .nil lie
  | program head others headHypothesis othersHypothesis =>
      obtain ⟨middle, inFront, behind⟩ := lie.split
      exact (headHypothesis inFront).append (othersHypothesis behind)
  | expressionStatement child inductionHypothesis => exact inductionHypothesis lie
  | blockStatement child inductionHypothesis => exact inductionHypothesis lie
  | blankStatement child => exact .nil lie.le
  | comment token isComment => exact .leaf lie.1 lie.2.1 lie.2.2
  | expression head isValue parameters terminator isTerminator inductionHypothesis =>
      obtain ⟨begins, stands, behind⟩ := lie
      obtain ⟨paramlistBegins, paramlistStands, paramlistEnds, listed⟩ := behind.headD
      obtain ⟨middle, inFront, isTerminated⟩ := listed.split
      have below := (inductionHypothesis inFront).mono (Nat.le_refl _) isTerminated.le
      -- the list of parameters stands where the token behind the head does
      have paramlist : IsSpread text head.span.stop last [.node .paramlist none
          (parameters.tokens.headD terminator).span parameters.nodes] :=
        .cons paramlistBegins paramlistEnds paramlistStands.placed nofun below
          (.nil (Nat.le_refl _))
      have leaf : IsSpread text head.span.start head.span.stop [.ofToken head] :=
        .leaf (Nat.le_refl _) stands (Nat.le_refl _)
      exact .cons begins behind.le stands.placed nofun (leaf.append paramlist)
        (.nil (Nat.le_refl _))
  | emptyParamlist => exact .nil lie
  | paramlist head others headHypothesis othersHypothesis =>
      obtain ⟨middle, inFront, behind⟩ := lie.split
      exact (headHypothesis inFront).append (othersHypothesis behind)
  | value token isValue => exact .leaf lie.1 lie.2.1 lie.2.2
  | blockParameter child inductionHypothesis => exact inductionHypothesis lie
  | block delimiter opened opens inner closed closes inductionHypothesis =>
      obtain ⟨begins, openStands, behind⟩ := lie
      obtain ⟨middle, inside, closeBegins, closeStands, ends⟩ := behind.split
      obtain ⟨isOpening, openStops⟩ := openStands.bracket delimiter.openChar (by rw [opens]; rfl)
      obtain ⟨isClosing, closeStops⟩ :=
        closeStands.bracket delimiter.closeChar (by rw [closes]; rfl)
      rw [openStops] at inside
      have below := (inductionHypothesis inside).mono (Nat.le_refl _) closeBegins
      have room := below.le
      have isLast : closed.span.stop - 1 = closed.span.start := by omega
      have encloses : Span.Encloses text delimiter { opened.span with stop := closed.span.stop }
          (Node.spansAll inner.nodes) := by
        refine ⟨isOpening, isLast ▸ isClosing, isLast ▸ room, fun span member => ?_⟩
        obtain ⟨starts, -, stops⟩ := below.within span member
        exact ⟨starts, isLast ▸ stops⟩
      have placed : Span.IsPlaced text { opened.span with stop := closed.span.stop } :=
        ⟨by dsimp only; omega, openStands.placed.line, openStands.placed.column⟩
      refine .cons begins ends placed ?_ (below.mono (Nat.le_succ _) ?_) (.nil (Nat.le_refl _))
      · rintro _ ⟨rfl⟩
        exact encloses
      · exact closeStands.placed.ordered.trans ends
  | blank terminator isTerminator => exact .nil lie.le

/-- The tree of a program lies where its tokens and the end of input stand. -/
theorem Derivation.isSpread_tree {text : List Char} {first last : Nat} {finalSpan : Span}
    (program : Derivation .program)
    (lie : LieWithin text first last (program.tokens ++ [.atEnd finalSpan])) :
    IsSpread text first last [program.tree finalSpan] := by
  obtain ⟨begins, stands, ends, listed⟩ := lie.headD
  obtain ⟨middle, inFront, isEnded⟩ := listed.split
  have below := (program.isSpread inFront).mono (Nat.le_refl _) isEnded.le
  have isProgram : IsSpread text (program.tokens.headD (.atEnd finalSpan)).span.start last
      [.node .program none (program.tokens.headD (.atEnd finalSpan)).span program.nodes] :=
    .cons (Nat.le_refl _) ends stands.placed nofun below (.nil (Nat.le_refl _))
  exact .cons begins ends stands.placed nofun isProgram (.nil (Nat.le_refl _))

/-- The nodes of a parsed tree lie in the text in the order of the tree, nested as they are in
it: their spans start in ascending order and report their starts, a block reaches from its
opening bracket to its closing one with everything below it in between, and neighbouring
subtrees do not overlap. -/
theorem parse_isSpreadOver {source : String} {tree : Node} (parsed : parse source = .ok tree) :
    (Arena.ofNode tree).IsSpreadOver source.toList := by
  have lie := Cursor.lieWithin_tokens (Nat.zero_le source.toList.length)
    fun token member => isFail_of_parse parsed (Cursor.ofString_eq source ▸ member)
  obtain ⟨program, isTokens, rfl⟩ := exists_derivation_of_parse parsed
  rw [← Cursor.ofString_eq, Cursor.filter_tokens, isTokens] at lie
  exact Arena.isSpreadOver_ofNode (program.isSpread_tree lie)

/-- A list of parameters that is empty, and one that starts with a block. -/
theorem parse_isSpreadOver_of_block : ∃ tree, parse "a [b\n] 7;\n" = .ok tree ∧
    tree.subtrees.map Node.span = [⟨0, 1, 1, 1⟩, ⟨0, 1, 1, 1⟩, ⟨0, 1, 1, 1⟩, ⟨0, 1, 1, 1⟩,
      ⟨2, 3, 1, 3⟩, ⟨2, 6, 1, 3⟩, ⟨3, 4, 1, 4⟩, ⟨3, 4, 1, 4⟩, ⟨4, 5, 1, 5⟩, ⟨7, 8, 2, 3⟩] ∧
    (Arena.ofNode tree).IsSpreadOver "a [b\n] 7;\n".toList := by
  obtain ⟨tree, parsed, spans⟩ : ∃ tree, parse "a [b\n] 7;\n" = .ok tree ∧
      tree.subtrees.map Node.span = [⟨0, 1, 1, 1⟩, ⟨0, 1, 1, 1⟩, ⟨0, 1, 1, 1⟩, ⟨0, 1, 1, 1⟩,
        ⟨2, 3, 1, 3⟩, ⟨2, 6, 1, 3⟩, ⟨3, 4, 1, 4⟩, ⟨3, 4, 1, 4⟩, ⟨4, 5, 1, 5⟩, ⟨7, 8, 2, 3⟩] :=
    exists_parse_of_map (by cbv)
  exact ⟨tree, parsed, spans, parse_isSpreadOver parsed⟩

end BlockData
