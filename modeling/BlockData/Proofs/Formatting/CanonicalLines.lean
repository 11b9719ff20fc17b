import BlockData.Proofs.Formatting.Derived
import BlockData.Proofs.Formatting.SingleLines
import BlockData.Proofs.Tree.Subtrees
import Mathlib

/-!
# Lines of canonical text

Canonical text is a sequence of lines, one for each statement and one for each bracket that
closes a block with statements. `Node.lineStarts` lists what the lines of a tree begin with,
each with the number of blocks around it. The pieces that a body is laid out as break into lines
that begin so and have no white space at their ends (`IsBody.breaksWell`), which the canonical
text of whatever is parsed shows (`parse_canonical_lines`).
-/

namespace BlockData

/-- What a line of canonical text begins with. -/
inductive LineStart where
  /-- A statement. -/
  | statement (node : Node)
  /-- The bracket that closes a block with statements. -/
  | closing (delimiter : Delimiter)

namespace Node

/-- The statements of a program or a block. -/
def ownStatements : Node → List Node
  | .node .program _ _ children => children
  | .node (.block _) _ _ children => children
  | _ => []

/-- Whether a tree is a block with statements. -/
def isFilledBlock (tree : Node) : Bool :=
  tree.kind.isBlock && !tree.children.isEmpty

mutual

/-- What the lines that begin inside of a tree begin with, in their order. Each comes with the
number of blocks around it, if `depth` blocks stand around the tree. -/
def lineStarts (depth : Nat) : Node → List (Nat × LineStart)
  | .node .program _ _ children => statementStarts depth children
  | .node (.block delimiter) _ _ children =>
      if children.isEmpty then []
      else statementStarts (depth + 1) children ++ [(depth, .closing delimiter)]
  | .node _ _ _ children => lineStartsAll depth children

/-- What the lines of statements begin with, and those that begin inside of them. -/
def statementStarts (depth : Nat) : List Node → List (Nat × LineStart)
  | [] => []
  | statement :: rest =>
      (depth, .statement statement) :: (statement.lineStarts depth ++ statementStarts depth rest)

/-- What the lines that begin inside of some trees begin with. -/
def lineStartsAll (depth : Nat) : List Node → List (Nat × LineStart)
  | [] => []
  | tree :: trees => tree.lineStarts depth ++ lineStartsAll depth trees

end

/-- The lines of a tree that is parsed are those of its statements. -/
theorem lineStarts_root (depth : Nat) (span programSpan : Span) (statements : List Node) :
    (Node.node .root none span [.node .program none programSpan statements]).lineStarts depth =
      statementStarts depth statements :=
  List.append_nil _

end Node

namespace LineStart

/-- What is written first on a line: the head of an expression, the opening bracket of a block,
a comment, or a closing bracket. -/
def text : LineStart → Except PrintError String
  | .statement (.node .expression _ _ (head :: _)) => head.valueText
  | .statement (.node (.block delimiter) _ _ _) => .ok delimiter.openChar.toString
  | .statement leaf => leaf.leafText
  | .closing delimiter => .ok delimiter.closeChar.toString

/-- A line, without its indentation, begins as something is written and has no white space at
its ends. -/
structure Begins (start : LineStart) (line : List Char) : Prop extends IsTight line where
  inFront : ∃ text, start.text = .ok text ∧ text.toList <+: line

end LineStart

namespace Node

mutual

/-- Inside of a tree begin as many lines as there are statements and blocks with statements. -/
theorem length_lineStarts (depth : Nat) : ∀ tree : Node, (tree.lineStarts depth).length =
    (tree.subtrees.flatMap ownStatements).length + (tree.subtrees.filter isFilledBlock).length
  | .node kind value span children => by
      have notFilled (notBlock : kind.isBlock = false) :
          ¬isFilledBlock (.node kind value span children) = true := by
        simp [isFilledBlock, Node.kind, notBlock]
      rw [subtrees, List.flatMap_cons, List.length_append, List.filter_cons]
      cases kind with
      | program =>
          rw [lineStarts, length_statementStarts, if_neg (notFilled rfl)]
          simp only [ownStatements]
          omega
      | block delimiter =>
          by_cases empty : children = []
          · subst empty
            rfl
          · have filled : children.isEmpty = false := by simpa using empty
            have isFilled : isFilledBlock (.node (.block delimiter) value span children) = true :=
              congrArg not filled
            rw [lineStarts, filled, if_neg Bool.false_ne_true, List.length_append,
              length_statementStarts, if_pos isFilled]
            simp only [ownStatements, List.length_cons, List.length_nil]
            omega
      | _ =>
          rw [if_neg (notFilled rfl)]
          simp only [lineStarts, ownStatements, length_lineStartsAll, List.length_nil]
          omega

/-- Statements begin a line each, besides the lines that begin inside of them. -/
theorem length_statementStarts (depth : Nat) : ∀ trees : List Node,
    (statementStarts depth trees).length = trees.length +
      (((subtreesAll trees).flatMap ownStatements).length +
        ((subtreesAll trees).filter isFilledBlock).length)
  | [] => rfl
  | tree :: trees => by
      rw [statementStarts, List.length_cons, List.length_append, length_lineStarts depth tree,
        length_statementStarts depth trees, subtreesAll, List.flatMap_append, List.filter_append,
        List.length_append, List.length_append, List.length_cons]
      omega

/-- Inside of trees begin as many lines as there are statements and blocks with statements. -/
theorem length_lineStartsAll (depth : Nat) : ∀ trees : List Node,
    (lineStartsAll depth trees).length = ((subtreesAll trees).flatMap ownStatements).length +
      ((subtreesAll trees).filter isFilledBlock).length
  | [] => rfl
  | tree :: trees => by
      rw [lineStartsAll, List.length_append, length_lineStarts depth tree,
        length_lineStartsAll depth trees, subtreesAll, List.flatMap_append, List.filter_append,
        List.length_append, List.length_append]
      omega

end

end Node

/-- The rest of a line, and the lines behind it, each with its depth. -/
structure OpenLine where
  rest : List Char
  behind : List (Nat × List Char)

/-- A piece in front of the rest of a line. The end of a line starts a new one. -/
def Piece.onto (piece : Piece) (following : OpenLine) : OpenLine :=
  match piece with
  | .text content => ⟨content.toList ++ following.rest, following.behind⟩
  | .newLine depth => ⟨[], (depth, following.rest) :: following.behind⟩

/-- The characters of a line and the lines behind it. -/
def OpenLine.chars (width : Nat) (line : OpenLine) : List Char :=
  line.rest ++ line.behind.flatMap fun next =>
    '\n' :: (List.replicate (next.1 * width) ' ' ++ next.2)

/-- Breaking pieces into lines changes no character. -/
theorem chars_foldr_onto (width : Nat) (pieces : List Piece) (following : OpenLine) :
    (pieces.foldr Piece.onto following).chars width =
      pieceChars width pieces ++ following.chars width := by
  induction pieces with
  | nil => rfl
  | cons piece pieces inductionHypothesis =>
      rw [List.foldr_cons, pieceChars_cons, List.append_assoc, ← inductionHypothesis]
      cases piece with
      | text content => simp [Piece.onto, Piece.render, OpenLine.chars]
      | newLine depth => simp [Piece.onto, Piece.render, OpenLine.chars]

/-- A line at its depth begins as it should. -/
structure IsLineOf (start : Nat × LineStart) (line : Nat × List Char) : Prop where
  atDepth : line.1 = start.1
  begins : start.2.Begins line.2

/-- Pieces in front of the rest of a line make up a line with it. Behind that line they break
into lines that begin as they should, whatever lines stand further on. -/
def BreaksAs (pieces : List Piece) (rest line : List Char) (starts : List (Nat × LineStart)) :
    Prop :=
  ∃ lines, (∀ behind, pieces.foldr Piece.onto ⟨rest, behind⟩ = ⟨line, lines ++ behind⟩) ∧
    List.Forall₂ IsLineOf starts lines

namespace BreaksAs

/-- No pieces break no line. -/
theorem nil (rest : List Char) : BreaksAs [] rest rest [] :=
  ⟨[], fun _ => rfl, .nil⟩

/-- A text stands in front of the rest of its line. -/
theorem text (content : String) (rest : List Char) :
    BreaksAs [.text content] rest (content.toList ++ rest) [] :=
  ⟨[], fun _ => rfl, .nil⟩

/-- The end of a line starts a new one. -/
theorem newLine {depth : Nat} {start : LineStart} {line : List Char} (begins : start.Begins line) :
    BreaksAs [.newLine depth] line [] [(depth, start)] :=
  ⟨[(depth, line)], fun _ => rfl, .cons ⟨rfl, begins⟩ .nil⟩

/-- Pieces in front of others break into the lines of both. -/
theorem append {first second : List Piece} {rest middle line : List Char}
    {firstStarts secondStarts : List (Nat × LineStart)}
    (inFront : BreaksAs first middle line firstStarts)
    (others : BreaksAs second rest middle secondStarts) :
    BreaksAs (first ++ second) rest line (firstStarts ++ secondStarts) := by
  obtain ⟨firstLines, firstBreaks, firstBegin⟩ := inFront
  obtain ⟨secondLines, secondBreaks, secondBegin⟩ := others
  refine ⟨firstLines ++ secondLines, fun behind => ?_, List.rel_append firstBegin secondBegin⟩
  rw [List.foldr_append, secondBreaks, firstBreaks, List.append_assoc]

end BreaksAs

/-- What it means that a body breaks into lines well: its layout exists, and breaks into lines
that begin as those of the body should. Statements end with their last line, and behind
parameters the line may go on. -/
def BreaksWell : Part → List Node → Prop
  | .statements, nodes => ∀ depth, ∃ pieces, Node.linesPieces depth nodes = .ok pieces ∧
      BreaksAs pieces [] [] (Node.statementStarts depth nodes)
  | .parameters, nodes => ∀ depth, ∃ pieces, Node.parameterPieces depth nodes = .ok pieces ∧
      ∀ rest, IsLineRest rest → ∃ line, IsLineRest line ∧
        BreaksAs pieces rest line (Node.lineStartsAll depth nodes)

namespace BreaksWell

/-- Opening brackets are no white space. -/
theorem openChar_isTight (delimiter : Delimiter) : IsTight [delimiter.openChar] :=
  isTight_singleton (by cases delimiter <;> rfl)

/-- Closing brackets are no white space. -/
theorem closeChar_isTight (delimiter : Delimiter) : IsTight [delimiter.closeChar] :=
  isTight_singleton (by cases delimiter <;> rfl)

/-- A block over statements that break well breaks well. Its first line goes on behind the
opening bracket, and the rest of the line behind the block goes on behind the closing one. -/
theorem block {children : List Node} (below : BreaksWell .statements children)
    (delimiter : Delimiter) (depth : Nat) (span : Span) :
    ∃ pieces, Node.blockPieces depth delimiter children = .ok pieces ∧
      ∀ rest, IsLineRest rest → ∃ line, IsLineRest line ∧
        BreaksAs pieces rest (delimiter.openChar :: line)
          ((Node.node (.block delimiter) none span children).lineStarts depth) := by
  by_cases empty : children = []
  · subst empty
    refine ⟨_, rfl, fun rest isRest => ⟨delimiter.closeChar :: rest, ?_, ?_⟩⟩
    · exact ((closeChar_isTight delimiter).append isRest).toIsLineRest
    · have brackets := BreaksAs.text (.ofList [delimiter.openChar, delimiter.closeChar]) rest
      rwa [String.toList_ofList] at brackets
  · obtain ⟨lines, areLines, breaks⟩ := below (depth + 1)
    have filled : children.isEmpty = false := by simpa using empty
    refine ⟨_, Node.blockPieces_of_linesPieces empty areLines, fun rest isRest => ?_⟩
    have begins : (LineStart.closing delimiter).Begins (delimiter.closeChar :: rest) :=
      ⟨(closeChar_isTight delimiter).append isRest, _, rfl, by simp⟩
    have opened := BreaksAs.text delimiter.openChar.toString []
    have closed := BreaksAs.text delimiter.closeChar.toString rest
    rw [Char.toString_eq_singleton, String.toList_singleton] at opened closed
    refine ⟨[], isLineRest_nil, ?_⟩
    rw [Node.lineStarts, filled, if_neg Bool.false_ne_true]
    exact opened.append (breaks.append ((BreaksAs.newLine begins).append closed))

/-- A statement whose line begins as it should may be put in front of statements that break
well. -/
theorem statement {node : Node} {others : List Node}
    (first : ∀ depth, ∃ pieces line, node.statementPieces depth = .ok pieces ∧
      (LineStart.statement node).Begins line ∧
        BreaksAs pieces [] line (node.lineStarts depth))
    (behind : BreaksWell .statements others) : BreaksWell .statements (node :: others) := by
  intro depth
  obtain ⟨pieces, line, arePieces, begins, breaks⟩ := first depth
  obtain ⟨lines, areLines, othersBreak⟩ := behind depth
  exact ⟨_, Node.linesPieces_cons arePieces areLines,
    (BreaksAs.newLine begins).append (breaks.append othersBreak)⟩

/-- A parameter without white space at its ends may be put in front of parameters that break
well. -/
theorem parameter {node : Node} {others : List Node}
    (first : ∀ depth, ∃ pieces,
      (∀ listed, Node.parameterPieces depth others = .ok listed →
        Node.parameterPieces depth (node :: others) = .ok (.text " " :: (pieces ++ listed))) ∧
      ∀ rest, IsLineRest rest → ∃ line, IsTight line ∧
        BreaksAs pieces rest line (node.lineStarts depth))
    (behind : BreaksWell .parameters others) : BreaksWell .parameters (node :: others) := by
  intro depth
  obtain ⟨pieces, arePieces, breaks⟩ := first depth
  obtain ⟨listed, areListed, othersBreak⟩ := behind depth
  refine ⟨.text " " :: (pieces ++ listed), arePieces listed areListed, fun rest isRest => ?_⟩
  obtain ⟨middle, isMiddle, behindBreaks⟩ := othersBreak rest isRest
  obtain ⟨line, tight, breaks⟩ := breaks middle isMiddle
  refine ⟨' ' :: line, tight.behindSpaces 1, ?_⟩
  exact (BreaksAs.text " " line).append (breaks.append behindBreaks)

end BreaksWell

/-- Every body breaks into lines well. -/
theorem IsBody.breaksWell {part : Part} {nodes : List Node} (body : IsBody part nodes) :
    BreaksWell part nodes := by
  induction body with
  | nil part =>
      cases part with
      | statements => exact fun depth => ⟨[], rfl, .nil []⟩
      | parameters => exact fun depth => ⟨[], rfl, fun rest isRest => ⟨rest, isRest, .nil rest⟩⟩
  | expression admitted below behind belowHypothesis behindHypothesis =>
      refine behindHypothesis.statement fun depth => ?_
      obtain ⟨text, isText, -⟩ := leaf_readsAs admitted
      obtain ⟨listed, areListed, breaks⟩ := belowHypothesis depth
      obtain ⟨line, isLine, breaks⟩ := breaks [] isLineRest_nil
      refine ⟨_, text.toList ++ line, Node.statementPieces_expression isText areListed .., ?_, ?_⟩
      · exact ⟨(leaf_isTight admitted isText).append isLine, text, isText, List.prefix_append ..⟩
      · simp only [Node.lineStarts, Node.lineStartsAll, List.nil_append, List.append_nil]
        exact (BreaksAs.text text line).append breaks
  | comment isComment behind behindHypothesis =>
      refine behindHypothesis.statement fun depth => ⟨_, _, rfl, ?_, .text _ []⟩
      rw [List.append_nil]
      exact ⟨comment_isTight isComment rfl, _, rfl, List.prefix_rfl⟩
  | @block part delimiter span children others below behind belowHypothesis behindHypothesis =>
      cases part with
      | statements =>
          refine behindHypothesis.statement fun depth => ?_
          obtain ⟨pieces, arePieces, breaks⟩ := belowHypothesis.block delimiter depth span
          obtain ⟨line, isLine, breaks⟩ := breaks [] isLineRest_nil
          refine ⟨pieces, delimiter.openChar :: line, arePieces, ?_, breaks⟩
          exact ⟨(BreaksWell.openChar_isTight delimiter).append isLine, _, rfl, by simp⟩
      | parameters =>
          refine behindHypothesis.parameter fun depth => ?_
          obtain ⟨pieces, arePieces, breaks⟩ := belowHypothesis.block delimiter depth span
          refine ⟨pieces, fun _ areListed => Node.parameterPieces_block arePieces areListed span,
            fun rest isRest => ?_⟩
          obtain ⟨line, isLine, breaks⟩ := breaks rest isRest
          exact ⟨_, (BreaksWell.openChar_isTight delimiter).append isLine, breaks⟩
  | value admitted behind behindHypothesis =>
      refine behindHypothesis.parameter fun depth => ?_
      obtain ⟨text, isText, -⟩ := leaf_readsAs admitted
      exact ⟨[.text text], fun _ areListed => Node.parameterPieces_value isText areListed _,
        fun rest isRest => ⟨_, (leaf_isTight admitted isText).append isRest, .text text rest⟩⟩

/-- What stands in front of every part of a text may be moved behind it. -/
theorem cons_flatMap_append {α β : Type} (mark : β) (part : α → List β) (parts : List α) :
    parts.flatMap (fun next => mark :: part next) ++ [mark] =
      mark :: parts.flatMap fun next => part next ++ [mark] := by
  induction parts with
  | nil => rfl
  | cons first others inductionHypothesis =>
      rw [List.flatMap_cons, List.append_assoc, inductionHypothesis, List.flatMap_cons]
      simp

/-- The line of a text that a line at its depth is rendered as. -/
def indentedLine (indent : Nat) (line : Nat × List Char) : List Char :=
  List.replicate (indent * line.1) ' ' ++ line.2

/-- The characters of pieces that break into lines, if the first line is empty. The line end in
front of each line is the one of the line before. -/
theorem BreaksAs.pieceChars_append_newLine {pieces : List Piece} {starts : List (Nat × LineStart)}
    (breaks : BreaksAs pieces [] [] starts) (width : Nat) : ∃ lines,
      List.Forall₂ IsLineOf starts lines ∧
        pieceChars width (pieces ++ [.newLine 0]) =
          '\n' :: lines.flatMap fun line => indentedLine width line ++ ['\n'] := by
  obtain ⟨lines, arePieces, begin⟩ := breaks
  refine ⟨lines, begin, ?_⟩
  have chars := chars_foldr_onto width pieces ⟨[], []⟩
  rw [arePieces, OpenLine.chars, OpenLine.chars, List.flatMap_nil, List.append_nil,
    List.append_nil, List.append_nil, List.nil_append] at chars
  rw [pieceChars_append, ← chars, ← cons_flatMap_append]
  simp [Piece.render, indentedLine, Nat.mul_comm]

/-- What it means that lines, without their ends, are those of the canonical text of a tree. -/
structure Node.IsLaidOutIn (tree : Node) (indent : Nat) (lines : List (List Char)) : Prop where
  /-- There is a line for each statement of the program and of every block, and for each block
  with statements. -/
  count : lines.length = (tree.subtrees.flatMap ownStatements).length +
    (tree.subtrees.filter isFilledBlock).length
  /-- Each line is indented by the blocks around what it begins with. -/
  begins : List.Forall₂ (fun start line => ∃ content,
    line = List.replicate (indent * start.1) ' ' ++ content ∧ start.2.Begins content)
    (tree.lineStarts 0) lines
  /-- No line has a line end in it or white space at its end. -/
  restOfLine : ∀ line ∈ lines, IsLineRest line

/-- The canonical text of whatever is parsed is a sequence of lines, laid out as its tree. -/
theorem parse_canonical_lines {source : String} {tree : Node} (parsed : parse source = .ok tree)
    (indent : Nat) : ∃ text lines, tree.canonical indent = .ok text ∧
      text.toList = lines.flatMap (fun line => line ++ ['\n']) ∧
      tree.IsLaidOutIn indent lines := by
  obtain ⟨span, programSpan, statements, rfl, body⟩ :=
    Node.isWellFormed_iff.mp (isWellFormed_of_parse parsed)
  obtain ⟨laidOut, areLaidOut, breaks⟩ := body.breaksWell 0
  obtain ⟨pieces, arePieces, moved⟩ := Node.programPieces_of_linesPieces areLaidOut
  obtain ⟨lines, begin, chars⟩ := breaks.pieceChars_append_newLine indent
  rw [← moved, pieceChars_cons, Piece.render, Nat.zero_mul] at chars
  have tight : ∀ line ∈ lines, IsTight line.2 :=
    ((List.forall₂_and_left lines _).mp
      (begin.flip.imp fun _ _ isLine => ⟨isLine.begins.toIsTight, isLine⟩)).1
  refine ⟨renderPieces indent pieces, lines.map (indentedLine indent),
    Node.canonical_of_programPieces arePieces .., ?_, ?_, ?_, ?_⟩
  · rw [toList_renderPieces, List.flatMap_map]
    exact List.tail_eq_of_cons_eq chars
  · rw [← Node.length_lineStarts 0, Node.lineStarts_root, List.length_map, begin.length_eq]
  · rw [Node.lineStarts_root, List.forall₂_map_right_iff]
    refine begin.imp fun start line isLine => ⟨line.2, ?_, isLine.begins⟩
    rw [indentedLine, isLine.atDepth]
  · intro line member
    obtain ⟨line, listed, rfl⟩ := List.mem_map.mp member
    exact (tight line listed).behindSpaces (indent * line.1)

/-- The lines of a block that is closed before the parameters end. -/
theorem parse_canonical_lines_of_block : ∃ tree lines, parse "a [-7;] b\n#  c\n" = .ok tree ∧
    tree.canonical 3 = .ok "a [\n   -7\n] b\n# c\n" ∧
    "a [\n   -7\n] b\n# c\n".toList = lines.flatMap (fun line => line ++ ['\n']) ∧
    tree.IsLaidOutIn 3 lines := by
  obtain ⟨tree, parsed, isText⟩ : ∃ tree, parse "a [-7;] b\n#  c\n" = .ok tree ∧
      tree.canonical 3 = .ok "a [\n   -7\n] b\n# c\n" := exists_parse_of_map (by cbv)
  obtain ⟨text, lines, isCanonical, others⟩ := parse_canonical_lines parsed 3
  cases isCanonical.symm.trans isText
  exact ⟨tree, lines, parsed, isText, others⟩

end BlockData
