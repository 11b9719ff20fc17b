import BlockData.Proofs.Formatting.Derived
import BlockData.Proofs.Formatting.Labels
import Mathlib

/-!
# Reading outlines back

An outline has a line for each node, in the order of the tree (`Node.outlineLines`). A line
tells the depth of its node and its label, and it closes the brackets of all nodes that end
with it, so its closing brackets follow from the depth of the next line
(`Node.toList_outline`). A comment may hold brackets of its own, so the brackets do not tell
how nodes are nested; the depths do.

Three steps lead back from outlines to trees. Lines whose nodes hold values that their kinds
admit are told by their characters (`outlineChars_inj`), trees are told by their lines
(`Node.outlineLines_eq_iff`), and the nodes of well-formed trees hold such values
(`Node.admits_of_isWellFormed`). So the outlines of parsed trees are the same if and only if
the trees agree apart from places (`outline_eq_iff`).
-/

namespace BlockData

/-- A line of an outline: what node it is about, and how deep that stands. -/
structure OutlineLine where
  depth : Nat
  kind : NodeKind
  value : Option Value

namespace Node

mutual

/-- The lines of the outline of a tree that stands at some depth. -/
def outlineLines (depth : Nat) : Node → List OutlineLine
  | .node kind value _ children => ⟨depth, kind, value⟩ :: outlineLinesAll (depth + 1) children

/-- The lines of the outlines of trees that stand at some depth. -/
def outlineLinesAll (depth : Nat) : List Node → List OutlineLine
  | [] => []
  | tree :: trees => tree.outlineLines depth ++ outlineLinesAll depth trees

end

end Node

/-- The depth of the first one of some lines. Behind the last line nothing is open. -/
def nextDepth : List OutlineLine → Nat
  | [] => 0
  | line :: _ => line.depth

/-- The characters of lines. Each one closes the brackets of all nodes that are open but not
around the next one. -/
def outlineChars : List OutlineLine → List Char
  | [] => []
  | ⟨depth, kind, value⟩ :: lines =>
      List.replicate (depth * 2) ' ' ++
        '(' :: ((Node.label kind value).toList ++
          List.replicate (depth + 1 - nextDepth lines) ')' ++ '\n' :: outlineChars lines)

/-! ### From trees to lines -/

/-- What it means that lines follow on the nodes around some depth, and that pieces say so: these
close the brackets of the nodes that are not around the first line. -/
structure Following (depth : Nat) (pieces : List Piece) (lines : List OutlineLine) : Prop where
  nextDepth_le : nextDepth lines ≤ depth
  chars : pieceChars 2 pieces =
    List.replicate (depth - nextDepth lines) ')' ++ '\n' :: outlineChars lines

/-- What follows on a node follows on what is in it, behind a closing bracket. -/
theorem Following.inside {depth : Nat} {pieces : List Piece} {lines : List OutlineLine}
    (following : Following depth pieces lines) :
    Following (depth + 1) (.text ")" :: pieces) lines where
  nextDepth_le := Nat.le_succ_of_le following.nextDepth_le
  chars := by
    rw [pieceChars_cons, following.chars, Nat.succ_sub following.nextDepth_le,
      List.replicate_succ]
    rfl

namespace Node

mutual

/-- The outline of a tree in front of what follows is its lines in front of the others. -/
theorem pieceChars_outlineOnto {depth : Nat} {pieces : List Piece} {lines : List OutlineLine} :
    ∀ tree : Node, Following depth pieces lines →
      List.replicate (depth * 2) ' ' ++ pieceChars 2 (tree.outlineOnto depth pieces) =
        outlineChars (tree.outlineLines depth ++ lines)
  | .node kind value _ children, following => by
      have below := following_outlineAllOnto children following.inside
      rw [outlineOnto, pieceChars_cons, below.chars, outlineLines, List.cons_append, outlineChars]
      simp [Piece.render]

/-- The outlines of trees in front of what follows are followed by their lines in front of
the others. -/
theorem following_outlineAllOnto {depth : Nat} {pieces : List Piece}
    {lines : List OutlineLine} : ∀ trees : List Node, Following depth pieces lines →
      Following depth (outlineAllOnto depth pieces trees) (outlineLinesAll depth trees ++ lines)
  | [], following => following
  | .node kind value span children :: trees, following => by
      have behind := following_outlineAllOnto trees following
      have first := pieceChars_outlineOnto (.node kind value span children) behind
      refine ⟨Nat.le_refl depth, ?_⟩
      rw [outlineAllOnto, pieceChars_cons, outlineLinesAll, List.append_assoc, ← first]
      simp [outlineLines, nextDepth, Piece.render]

end

/-- The outline of a tree is the characters of its lines. -/
theorem toList_outline (tree : Node) :
    tree.outline.toList = outlineChars (tree.outlineLines 0) := by
  have atEnd : Following 0 [.newLine 0] [] := ⟨Nat.le_refl 0, rfl⟩
  have chars := pieceChars_outlineOnto tree atEnd
  rw [outline, toList_renderPieces]
  simpa using chars

end Node

/-! ### From characters to lines -/

/-- Two texts up to where a character first stands are the same if the wholes are. -/
theorem eq_of_append_cons {c : Char} {front others rest behind : List Char}
    (outside : c ∉ front) (outsideOthers : c ∉ others)
    (same : front ++ c :: rest = others ++ c :: behind) : front = others ∧ rest = behind := by
  rcases List.append_eq_append_iff.mp same with ⟨between, whole, ends⟩ | ⟨between, whole, ends⟩
  · cases between with
    | nil => simpa [eq_comm] using And.intro whole ends
    | cons d between =>
        obtain ⟨rfl, -⟩ := List.cons.inj ends
        exact absurd (by simp [whole]) outsideOthers
  · cases between with
    | nil => simpa [eq_comm] using And.intro whole ends
    | cons d between =>
        obtain ⟨rfl, -⟩ := List.cons.inj ends
        exact absurd (by simp [whole]) outside

/-- The characters of a line up to its end have no line feed. -/
theorem lineFeed_notMem_label {kind : NodeKind} {value : Option Value}
    (admitted : kind.admits value = true) (closings : Nat) :
    '\n' ∉ (Node.label kind value).toList ++ List.replicate closings ')' := by
  rw [List.mem_append]
  rintro (member | member)
  · cases Node.label_isLine admitted _ member
  · exact absurd (List.eq_of_mem_replicate member) (by decide)

/-- Lines whose nodes hold values that their kinds admit are told by their characters. -/
theorem outlineChars_inj : ∀ {lines others : List OutlineLine},
    (∀ line ∈ lines, line.kind.admits line.value = true) →
    (∀ line ∈ others, line.kind.admits line.value = true) →
    outlineChars lines = outlineChars others → lines = others
  | [], [], _, _, _ => rfl
  | [], ⟨_, _, _⟩ :: _, _, _, same => by simp [outlineChars] at same
  | ⟨_, _, _⟩ :: _, [], _, _, same => by simp [outlineChars] at same
  | ⟨depth, kind, value⟩ :: lines, ⟨otherDepth, otherKind, otherValue⟩ :: others, admitted,
    othersAdmitted, same => by
      obtain ⟨firstAdmitted, admitted⟩ := List.forall_mem_cons.mp admitted
      obtain ⟨firstOtherAdmitted, othersAdmitted⟩ := List.forall_mem_cons.mp othersAdmitted
      obtain ⟨sameSpaces, sameBehind⟩ := eq_of_append_cons (by simp) (by simp) same
      obtain ⟨sameText, sameLines⟩ := eq_of_append_cons
        (lineFeed_notMem_label firstAdmitted _) (lineFeed_notMem_label firstOtherAdmitted _)
        sameBehind
      -- the closing brackets are known from the next line, so what is left is the label
      obtain rfl := outlineChars_inj admitted othersAdmitted sameLines
      obtain rfl : depth = otherDepth := by
        have sameLength := congrArg List.length sameSpaces
        simp only [List.length_replicate] at sameLength
        omega
      have sameLabel := String.toList_inj.mp (List.append_cancel_right sameText)
      obtain ⟨rfl, rfl⟩ := Node.label_inj firstAdmitted firstOtherAdmitted sameLabel
      rfl

/-! ### From lines to trees -/

namespace Node

/-- No line of trees at some depth stands less deep than what follows. -/
theorem nextDepth_append_le {depth : Nat} {lines : List OutlineLine} :
    ∀ trees : List Node, nextDepth lines ≤ depth →
      nextDepth (outlineLinesAll depth trees ++ lines) ≤ depth
  | [], outside => outside
  | .node _ _ _ _ :: _, _ => Nat.le_refl depth

mutual

/-- Lines start with those of one tree at most, if what follows stands no deeper. -/
theorem unplaced_eq_of_outlineLines {depth : Nat} {lines others : List OutlineLine} :
    ∀ left right : Node, nextDepth lines ≤ depth → nextDepth others ≤ depth →
      left.outlineLines depth ++ lines = right.outlineLines depth ++ others →
      left.unplaced = right.unplaced ∧ lines = others
  | .node _ _ _ children, .node _ _ _ otherChildren, outside, othersOutside, same => by
      obtain ⟨sameFirst, sameBehind⟩ := List.cons.inj same
      obtain ⟨-, rfl, rfl⟩ := OutlineLine.mk.inj sameFirst
      obtain ⟨sameChildren, sameLines⟩ := unplacedAll_eq_of_outlineLinesAll children otherChildren
        (Nat.lt_succ_of_le outside) (Nat.lt_succ_of_le othersOutside) sameBehind
      exact ⟨by rw [unplaced, unplaced, sameChildren], sameLines⟩

/-- Lines start with those of one list of trees at most, if what follows stands less deep. -/
theorem unplacedAll_eq_of_outlineLinesAll {depth : Nat} {lines others : List OutlineLine} :
    ∀ lefts rights : List Node, nextDepth lines < depth → nextDepth others < depth →
      outlineLinesAll depth lefts ++ lines = outlineLinesAll depth rights ++ others →
      unplacedAll lefts = unplacedAll rights ∧ lines = others
  | [], [], _, _, same => ⟨rfl, same⟩
  | [], .node _ _ _ _ :: _, outside, _, same => by
      obtain rfl : lines = _ := same
      exact absurd outside (Nat.lt_irrefl depth)
  | .node _ _ _ _ :: _, [], _, othersOutside, same => by
      obtain rfl : others = _ := same.symm
      exact absurd othersOutside (Nat.lt_irrefl depth)
  | left :: lefts, right :: rights, outside, othersOutside, same => by
      rw [outlineLinesAll, outlineLinesAll, List.append_assoc, List.append_assoc] at same
      obtain ⟨sameFirst, sameBehind⟩ := unplaced_eq_of_outlineLines left right
        (nextDepth_append_le lefts (Nat.le_of_lt outside))
        (nextDepth_append_le rights (Nat.le_of_lt othersOutside)) same
      obtain ⟨sameOthers, sameLines⟩ := unplacedAll_eq_of_outlineLinesAll lefts rights outside
        othersOutside sameBehind
      exact ⟨by rw [unplacedAll, unplacedAll, sameFirst, sameOthers], sameLines⟩

end

mutual

/-- The lines of a tree do not depend on places. -/
theorem outlineLines_unplaced (depth : Nat) : ∀ tree : Node,
    tree.unplaced.outlineLines depth = tree.outlineLines depth
  | .node _ _ _ children => by
      rw [unplaced, outlineLines, outlineLines, outlineLinesAll_unplacedAll _ children]

/-- The lines of trees do not depend on places. -/
theorem outlineLinesAll_unplacedAll (depth : Nat) : ∀ trees : List Node,
    outlineLinesAll depth (unplacedAll trees) = outlineLinesAll depth trees
  | [] => rfl
  | tree :: trees => by
      rw [unplacedAll, outlineLinesAll, outlineLinesAll, outlineLines_unplaced _ tree,
        outlineLinesAll_unplacedAll _ trees]

end

/-- Trees have the same lines if and only if they agree apart from places. -/
theorem outlineLines_eq_iff {left right : Node} :
    left.outlineLines 0 = right.outlineLines 0 ↔ left.unplaced = right.unplaced := by
  constructor
  · intro sameLines
    have same : left.outlineLines 0 ++ [] = right.outlineLines 0 ++ [] := by rw [sameLines]
    exact (unplaced_eq_of_outlineLines left right (Nat.le_refl 0) (Nat.le_refl 0) same).1
  · intro same
    rw [← outlineLines_unplaced, same, outlineLines_unplaced]

/-- The nodes of a body hold values that their kinds admit. -/
theorem admits_of_isBody {part : Part} {nodes : List Node} (body : IsBody part nodes) :
    ∀ depth, ∀ line ∈ outlineLinesAll depth nodes, line.kind.admits line.value = true := by
  induction body with
  | nil part => exact fun _ => nofun
  | expression admitted below behind belowHypothesis behindHypothesis =>
      intro depth line member
      simp only [outlineLinesAll, outlineLines, List.cons_append, List.nil_append, List.append_nil,
        List.mem_cons, List.mem_append] at member
      rcases member with rfl | rfl | rfl | member | member
      · rfl
      · exact admitted
      · rfl
      · exact belowHypothesis _ line member
      · exact behindHypothesis _ line member
  | comment isComment behind behindHypothesis =>
      intro depth
      exact List.forall_mem_cons.mpr ⟨isComment, behindHypothesis depth⟩
  | block below behind belowHypothesis behindHypothesis =>
      intro depth
      exact List.forall_mem_cons.mpr ⟨rfl, List.forall_mem_append.mpr
        ⟨belowHypothesis (depth + 1), behindHypothesis depth⟩⟩
  | value admitted behind behindHypothesis =>
      intro depth
      exact List.forall_mem_cons.mpr ⟨admitted, behindHypothesis depth⟩

/-- The nodes of a well-formed tree hold values that their kinds admit. -/
theorem admits_of_isWellFormed {tree : Node} (wellFormed : tree.isWellFormed = true) :
    ∀ line ∈ tree.outlineLines 0, line.kind.admits line.value = true := by
  obtain ⟨span, programSpan, statements, rfl, body⟩ := isWellFormed_iff.mp wellFormed
  simp only [outlineLines, outlineLinesAll, List.append_nil, List.forall_mem_cons]
  exact ⟨rfl, rfl, admits_of_isBody body 2⟩

end Node

/-- Outlines lose nothing but places. The trees of two texts have the same outline if and only
if they agree in kinds, values and order of children, where floats agree bit for bit. -/
theorem outline_eq_iff {first second : String} {left right : Node}
    (firstParsed : parse first = .ok left) (secondParsed : parse second = .ok right) :
    left.outline = right.outline ↔ left.unplaced = right.unplaced := by
  rw [← String.toList_inj, Node.toList_outline, Node.toList_outline, ← Node.outlineLines_eq_iff]
  constructor
  · exact outlineChars_inj (Node.admits_of_isWellFormed (isWellFormed_of_parse firstParsed))
      (Node.admits_of_isWellFormed (isWellFormed_of_parse secondParsed))
  · exact congrArg outlineChars

/-- Brackets in comments may pass for the ends of blocks. These two outlines differ in the depth
of a single line, and so do the trees. -/
theorem outline_eq_iff_of_brackets : ∃ left right,
    parse "[# a)\n# b\n]" = .ok left ∧ parse "[# a\n]# b)" = .ok right ∧
    left.outline =
      "(root\n  (program\n    (block bracket\n      (comment a))\n      (comment b))))\n" ∧
    right.outline =
      "(root\n  (program\n    (block bracket\n      (comment a))\n    (comment b))))\n" ∧
    left.unplaced ≠ right.unplaced ∧
    (left.outline = right.outline ↔ left.unplaced = right.unplaced) := by
  obtain ⟨left, firstParsed, firstOutline⟩ : ∃ tree, parse "[# a)\n# b\n]" = .ok tree ∧
      tree.outline =
        "(root\n  (program\n    (block bracket\n      (comment a))\n      (comment b))))\n" :=
    exists_parse_of_map (by cbv)
  obtain ⟨right, secondParsed, secondOutline⟩ : ∃ tree, parse "[# a\n]# b)" = .ok tree ∧
      tree.outline =
        "(root\n  (program\n    (block bracket\n      (comment a))\n    (comment b))))\n" :=
    exists_parse_of_map (by cbv)
  have sameOutlines := outline_eq_iff firstParsed secondParsed
  refine ⟨left, right, firstParsed, secondParsed, firstOutline, secondOutline, ?_, sameOutlines⟩
  rw [Ne, ← sameOutlines, firstOutline, secondOutline]
  decide

end BlockData
