import BlockData.Proofs.Lexing.Leaves
import BlockData.Proofs.Tree.Bodies

/-!
# Words of canonical text

The canonical text of a well-formed tree is read as the words that `Node.written` lists.
They say nothing about the indentation, so the same words are read whatever it is. Each
line of the text ends with a word of its own, also behind the bracket that opens a block.
-/

namespace BlockData

namespace Node

mutual

/-- The words that a node is written with. -/
def written : Node → List Word
  | .node (.leaf kind) value _ _ => [⟨kind, value⟩]
  | .node (.block delimiter) _ _ children =>
      ⟨.opening delimiter, none⟩ ::
        ((if children.isEmpty then [] else .lineEnd :: writtenLines children) ++
          [⟨.closing delimiter, none⟩])
  | .node _ _ _ children => writtenAll children

/-- The words that nodes are written with, one after the other. -/
def writtenAll : List Node → List Word
  | [] => []
  | tree :: trees => tree.written ++ writtenAll trees

/-- The words that nodes are written with, each on a line. -/
def writtenLines : List Node → List Word
  | [] => []
  | tree :: trees => tree.written ++ .lineEnd :: writtenLines trees

end

end Node

/-- The words that the nodes of a body are written with. -/
def Part.written : Part → List Node → List Word
  | .statements => Node.writtenLines
  | .parameters => Node.writtenAll

/-- The characters of pieces. -/
def pieceChars (width : Nat) (pieces : List Piece) : List Char :=
  pieces.flatMap fun piece => (piece.render width).toList

@[simp] theorem pieceChars_nil (width : Nat) : pieceChars width [] = [] :=
  rfl

@[simp] theorem pieceChars_cons (width : Nat) (piece : Piece) (pieces : List Piece) :
    pieceChars width (piece :: pieces) = (piece.render width).toList ++ pieceChars width pieces :=
  rfl

@[simp] theorem pieceChars_append (width : Nat) (first second : List Piece) :
    pieceChars width (first ++ second) = pieceChars width first ++ pieceChars width second :=
  List.flatMap_append ..

/-- Rendering writes the characters of all pieces. -/
theorem toList_renderPieces (width : Nat) (pieces : List Piece) :
    (renderPieces width pieces).toList = pieceChars width pieces := by
  have general : ∀ written : String,
      (pieces.foldl (fun written piece => written ++ piece.render width) written).toList =
        written.toList ++ pieceChars width pieces := by
    induction pieces with
    | nil => simp
    | cons piece pieces inductionHypothesis =>
        intro written
        rw [List.foldl_cons, inductionHypothesis, String.toList_append, List.append_assoc]
        rfl
  exact general ""

/-- A new line ends a line, and its indentation adds nothing. -/
theorem words_newLine (width depth : Nat) (rest : List Char) :
    words (((Piece.newLine depth).render width).toList ++ rest) = .lineEnd :: words rest := by
  rw [Piece.render, String.toList_ofList, List.cons_append, words_lineFeed, words_replicate_space]

/-- What it means that a body is laid out well: its layout exists, and is read as what is
written. Statements come with the end of the last line. -/
def IsLaidOut (width : Nat) : Part → List Node → Prop
  | .statements, nodes => ∀ depth, ∃ pieces, Node.linesPieces depth nodes = .ok pieces ∧
      ∀ outer rest, words (pieceChars width (pieces ++ [.newLine outer]) ++ rest) =
        .lineEnd :: (Node.writtenLines nodes ++ words rest)
  | .parameters, nodes => ∀ depth, ∃ pieces, Node.parameterPieces depth nodes = .ok pieces ∧
      ∀ rest, IsDetached rest → IsDetached (pieceChars width pieces ++ rest) ∧
        words (pieceChars width pieces ++ rest) = Node.writtenAll nodes ++ words rest

namespace Node

/-- What lines are laid out as. -/
theorem exists_of_linesPieces_cons {depth : Nat} {first : Node} {rest : List Node}
    {pieces : List Piece} (laidOut : linesPieces depth (first :: rest) = .ok pieces) :
    ∃ firstPieces others, statementPieces depth first = .ok firstPieces ∧
      linesPieces depth rest = .ok others ∧
      pieces = .newLine depth :: (firstPieces ++ others) := by
  rw [linesPieces] at laidOut
  cases isFirst : statementPieces depth first with
  | error error =>
      rw [isFirst] at laidOut
      cases laidOut
  | ok firstPieces =>
      cases areOthers : linesPieces depth rest with
      | error error =>
          rw [isFirst, areOthers] at laidOut
          cases laidOut
      | ok others =>
          rw [isFirst, areOthers] at laidOut
          cases laidOut
          exact ⟨firstPieces, others, rfl, rfl, rfl⟩

/-- A statement that is laid out is put on a line in front of the lines of others. -/
theorem linesPieces_cons {depth : Nat} {first : Node} {rest : List Node}
    {pieces lines : List Piece} (isFirst : statementPieces depth first = .ok pieces)
    (areOthers : linesPieces depth rest = .ok lines) :
    linesPieces depth (first :: rest) = .ok (.newLine depth :: (pieces ++ lines)) := by
  rw [linesPieces, isFirst, areOthers]
  rfl

/-- The text of a value is the one of its token. -/
theorem valueText_value (kind : ValueKind) (value : Option Value) (span : Span) :
    valueText (.node (.leaf (.value kind)) value span []) = tokenText (.value kind) value :=
  rfl

/-- An expression is laid out as the text of its head and its parameters. -/
theorem statementPieces_expression {depth : Nat} {kind : ValueKind} {value : Option Value}
    {text : String} {parameters : List Node} {listed : List Piece}
    (isText : tokenText (.value kind) value = .ok text)
    (areListed : parameterPieces depth parameters = .ok listed) (span headSpan listSpan : Span) :
    statementPieces depth (.node .expression none span
      [.node (.leaf (.value kind)) value headSpan [], .node .paramlist none listSpan parameters]) =
      .ok (.text text :: listed) := by
  rw [statementPieces, expressionPieces, valueText_value, isText, areListed]
  rfl

/-- A value is put behind a space in front of other parameters. -/
theorem parameterPieces_value {depth : Nat} {kind : ValueKind} {value : Option Value}
    {text : String} {others : List Node} {listed : List Piece}
    (isText : tokenText (.value kind) value = .ok text)
    (areListed : parameterPieces depth others = .ok listed) (span : Span) :
    parameterPieces depth (.node (.leaf (.value kind)) value span [] :: others) =
      .ok (.text " " :: .text text :: listed) := by
  rw [parameterPieces, valueText_value, isText, areListed]
  · rfl
  · rintro _ _ _ _ ⟨⟩

/-- A block is put behind a space in front of other parameters. -/
theorem parameterPieces_block {depth : Nat} {delimiter : Delimiter} {children others : List Node}
    {pieces listed : List Piece} (isBlock : blockPieces depth delimiter children = .ok pieces)
    (areListed : parameterPieces depth others = .ok listed) (span : Span) :
    parameterPieces depth (.node (.block delimiter) none span children :: others) =
      .ok (.text " " :: (pieces ++ listed)) := by
  rw [parameterPieces, isBlock, areListed]
  rfl

/-- A block with statements is laid out as brackets around their lines. -/
theorem blockPieces_of_linesPieces {depth : Nat} {delimiter : Delimiter} {children : List Node}
    {pieces : List Piece} (nonempty : children ≠ [])
    (laidOut : linesPieces (depth + 1) children = .ok pieces) :
    blockPieces depth delimiter children = .ok (.text delimiter.openChar.toString ::
      (pieces ++ [.newLine depth, .text delimiter.closeChar.toString])) := by
  cases children with
  | nil => exact absurd rfl nonempty
  | cons first rest =>
      obtain ⟨firstPieces, others, isFirst, areOthers, rfl⟩ := exists_of_linesPieces_cons laidOut
      rw [blockPieces, isFirst, areOthers, List.cons_append]
      rfl

/-- The lines of a program are its statements with the line ends moved behind them. -/
theorem programPieces_of_linesPieces {statements : List Node} {pieces : List Piece}
    (laidOut : linesPieces 0 statements = .ok pieces) :
    ∃ program, programPieces statements = .ok program ∧
      .newLine 0 :: program = pieces ++ [.newLine 0] := by
  induction statements generalizing pieces with
  | nil =>
      cases laidOut
      exact ⟨[], rfl, rfl⟩
  | cons first rest inductionHypothesis =>
      obtain ⟨firstPieces, others, isFirst, areOthers, rfl⟩ := exists_of_linesPieces_cons laidOut
      obtain ⟨program, isProgram, moved⟩ := inductionHypothesis areOthers
      refine ⟨firstPieces ++ .newLine 0 :: program, ?_, ?_⟩
      · rw [programPieces, isFirst, isProgram]
        rfl
      · rw [moved]
        simp

end Node

/-- A single character is rendered as it is. -/
theorem toList_render_char (width : Nat) (c : Char) :
    ((Piece.text c.toString).render width).toList = [c] := by
  simp [Piece.render]

namespace IsLaidOut

variable {width : Nat}

/-- A block over statements that are laid out well is laid out well. -/
theorem block {children : List Node} (below : IsLaidOut width .statements children)
    (delimiter : Delimiter) (depth : Nat) (span : Span) :
    ∃ pieces, Node.blockPieces depth delimiter children = .ok pieces ∧
      ∀ rest, words (pieceChars width pieces ++ rest) =
        (Node.node (.block delimiter) none span children).written ++ words rest := by
  have opened := fun rest => (opening_readsAs delimiter rest).words_append
  have closed := fun rest => (closing_readsAs delimiter rest).words_append
  by_cases empty : children = []
  · subst empty
    refine ⟨_, rfl, fun rest => ?_⟩
    have brackets :
        pieceChars width [.text (String.ofList [delimiter.openChar, delimiter.closeChar])] =
          [delimiter.openChar] ++ [delimiter.closeChar] := by
      simp [Piece.render]
    rw [brackets, List.append_assoc, opened, closed]
    rfl
  · obtain ⟨lines, areLines, isRead⟩ := below (depth + 1)
    refine ⟨_, Node.blockPieces_of_linesPieces empty areLines, fun rest => ?_⟩
    have inner := isRead depth ([delimiter.closeChar] ++ rest)
    rw [closed] at inner
    have parts : pieceChars width (.text delimiter.openChar.toString ::
          (lines ++ [.newLine depth, .text delimiter.closeChar.toString])) ++ rest =
        [delimiter.openChar] ++
          (pieceChars width (lines ++ [.newLine depth]) ++ ([delimiter.closeChar] ++ rest)) := by
      simp only [pieceChars_cons, pieceChars_append, pieceChars_nil, toList_render_char,
        List.append_assoc, List.append_nil]
    have nonempty : children.isEmpty = false := by simpa using empty
    rw [parts, opened, inner, Node.written, nonempty]
    simp

/-- The characters behind a statement start with a line feed. -/
theorem head?_lines {depth outer : Nat} {nodes : List Node} {lines : List Piece}
    (areLines : Node.linesPieces depth nodes = .ok lines) (rest : List Char) :
    (pieceChars width (lines ++ [.newLine outer]) ++ rest).head? = some '\n' := by
  cases nodes with
  | nil =>
      cases areLines
      simp [Piece.render]
  | cons node nodes =>
      obtain ⟨firstPieces, others, -, -, rfl⟩ := Node.exists_of_linesPieces_cons areLines
      simp [Piece.render]

/-- A statement that is read as what is written, up to the end of its line, may be put in
front of statements that are laid out well. -/
theorem statement {node : Node} {others : List Node}
    (first : ∀ depth, ∃ pieces, node.statementPieces depth = .ok pieces ∧
      ∀ rest, rest.head? = some '\n' →
        words (pieceChars width pieces ++ rest) = node.written ++ words rest)
    (behind : IsLaidOut width .statements others) :
    IsLaidOut width .statements (node :: others) := by
  intro depth
  obtain ⟨pieces, arePieces, isRead⟩ := first depth
  obtain ⟨lines, areLines, areRead⟩ := behind depth
  refine ⟨_, Node.linesPieces_cons arePieces areLines, fun outer rest => ?_⟩
  have parts :
      pieceChars width (.newLine depth :: (pieces ++ lines) ++ [.newLine outer]) ++ rest =
        ((Piece.newLine depth).render width).toList ++ (pieceChars width pieces ++
          (pieceChars width (lines ++ [.newLine outer]) ++ rest)) := by
    simp only [pieceChars_cons, pieceChars_append, pieceChars_nil, List.cons_append,
      List.append_assoc, List.append_nil]
  rw [parts, words_newLine, isRead _ (head?_lines areLines rest), areRead, Node.writtenLines,
    List.append_assoc, List.cons_append]

/-- A parameter that is read as what is written may be put in front of parameters that are
laid out well. -/
theorem parameter {node : Node} {others : List Node}
    (first : ∀ depth, ∃ pieces,
      (∀ listed, Node.parameterPieces depth others = .ok listed →
        Node.parameterPieces depth (node :: others) = .ok (.text " " :: (pieces ++ listed))) ∧
      ∀ rest, IsDetached rest →
        words (pieceChars width pieces ++ rest) = node.written ++ words rest)
    (behind : IsLaidOut width .parameters others) :
    IsLaidOut width .parameters (node :: others) := by
  intro depth
  obtain ⟨pieces, arePieces, isRead⟩ := first depth
  obtain ⟨listed, areListed, areRead⟩ := behind depth
  refine ⟨.text " " :: (pieces ++ listed), arePieces listed areListed, fun rest detached => ?_⟩
  obtain ⟨detachedOthers, readOthers⟩ := areRead rest detached
  have parts : pieceChars width (.text " " :: (pieces ++ listed)) ++ rest =
      ' ' :: (pieceChars width pieces ++ (pieceChars width listed ++ rest)) := by
    simp [Piece.render]
  rw [parts]
  constructor
  · rintro c ⟨rfl⟩
    exact .inl rfl
  · rw [words_blank rfl, isRead _ detachedOthers, readOthers, Node.writtenAll, List.append_assoc]

end IsLaidOut

/-- A text in front of a line feed is detached. -/
theorem isDetached_of_head? {rest : List Char} (lineEnds : rest.head? = some '\n') :
    IsDetached rest := by
  rw [IsDetached, lineEnds]
  rintro c ⟨rfl⟩
  exact .inr rfl

/-- A piece of text is rendered as it is. -/
theorem pieceChars_text (width : Nat) (text : String) (pieces : List Piece) :
    pieceChars width (.text text :: pieces) = text.toList ++ pieceChars width pieces :=
  rfl

/-- Every body is laid out well. -/
theorem IsBody.isLaidOut {part : Part} {nodes : List Node} (body : IsBody part nodes)
    (width : Nat) : IsLaidOut width part nodes := by
  induction body with
  | nil part =>
      cases part with
      | statements =>
          intro depth
          refine ⟨[], rfl, fun outer rest => ?_⟩
          simp [words_newLine, Node.writtenLines]
      | parameters =>
          intro depth
          exact ⟨[], rfl, fun rest detached => ⟨detached, rfl⟩⟩
  | expression admitted below behind belowHypothesis behindHypothesis =>
      refine behindHypothesis.statement fun depth => ?_
      obtain ⟨text, isText, reads⟩ := leaf_readsAs admitted
      obtain ⟨listed, areListed, listRead⟩ := belowHypothesis depth
      refine ⟨_, Node.statementPieces_expression isText areListed .., fun rest lineEnds => ?_⟩
      obtain ⟨detached, read⟩ := listRead rest (isDetached_of_head? lineEnds)
      rw [pieceChars_text, List.append_assoc, (reads _ detached).words_append, read]
      simp [Node.written, Node.writtenAll]
  | comment isComment behind behindHypothesis =>
      refine behindHypothesis.statement fun depth => ?_
      refine ⟨_, rfl, fun rest lineEnds => ?_⟩
      have lineEnd : ∀ c ∈ rest.head?, isLineEnd c = true := by
        rw [lineEnds]
        rintro c ⟨rfl⟩
        rfl
      rw [pieceChars_text, pieceChars_nil, List.append_nil,
        (comment_readsAs isComment lineEnd).words_append]
      rfl
  | @block part delimiter span children others below behind belowHypothesis behindHypothesis =>
      cases part with
      | statements =>
          refine behindHypothesis.statement fun depth => ?_
          obtain ⟨pieces, arePieces, isRead⟩ := belowHypothesis.block delimiter depth span
          exact ⟨pieces, arePieces, fun rest _ => isRead rest⟩
      | parameters =>
          refine behindHypothesis.parameter fun depth => ?_
          obtain ⟨pieces, arePieces, isRead⟩ := belowHypothesis.block delimiter depth span
          exact ⟨pieces, fun _ areListed => Node.parameterPieces_block arePieces areListed span,
            fun rest _ => isRead rest⟩
  | value admitted behind behindHypothesis =>
      refine behindHypothesis.parameter fun depth => ?_
      obtain ⟨text, isText, reads⟩ := leaf_readsAs admitted
      refine ⟨[.text text], fun _ areListed => Node.parameterPieces_value isText areListed _,
        fun rest detached => ?_⟩
      rw [pieceChars_text, pieceChars_nil, List.append_nil, (reads rest detached).words_append]
      rfl

/-- The canonical text of a root over a program renders what the program is laid out as. -/
theorem Node.canonical_of_programPieces {statements : List Node} {pieces : List Piece}
    (arePieces : programPieces statements = .ok pieces) (span programSpan : Span) (width : Nat) :
    (Node.node .root none span [.node .program none programSpan statements]).canonical width =
      .ok (renderPieces width pieces) := by
  have program :
      (Node.node .root none span [.node .program none programSpan statements]).program? =
        some (.node .program none programSpan statements) := rfl
  rw [canonical, program]
  simp only [Node.children, arePieces]
  rfl

/-- The canonical text of a well-formed tree is read as what is written. -/
theorem Node.exists_canonical {statements : List Node} (body : IsBody .statements statements)
    (span programSpan : Span) (width : Nat) :
    ∃ text,
      (Node.node .root none span [.node .program none programSpan statements]).canonical width =
        .ok text ∧
      BlockData.words text.toList = Node.writtenLines statements := by
  obtain ⟨lines, areLines, isRead⟩ := body.isLaidOut width 0
  obtain ⟨pieces, arePieces, moved⟩ := Node.programPieces_of_linesPieces areLines
  refine ⟨renderPieces width pieces, canonical_of_programPieces arePieces .., ?_⟩
  have read := isRead 0 []
  rw [← moved, pieceChars_cons, List.append_nil, words_newLine, words_nil, List.append_nil,
    List.cons.injEq] at read
  rw [toList_renderPieces]
  exact read.2

end BlockData
