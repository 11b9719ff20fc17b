import BlockData.Node.View
import BlockData.Proofs.Formatting.Labels
import BlockData.Proofs.Tree.Equality
import BlockData.Proofs.Tree.Links
import Mathlib

/-!
# Views of trees

The view of a node in an arena is that of the tree below it, and listed in pre-order it says
of each node what a walk over the arena finds (`Arena.map_row?_walk`). A view has the name of
a kind and, for a block, its opening bracket, which together tell the kind
(`NodeKind.eq_of_name`). So two views are equal exactly if their trees have the same shape and
report the same lines and columns.
-/

namespace BlockData

/-- What a view says about one node. -/
structure View.Row where
  kind : String
  value : Option Value
  delimiter : Option String
  line : Nat
  column : Nat
  /-- How many children the node has. -/
  children : Nat

/-- The line and the column of a row. -/
def View.Row.place (row : View.Row) : Nat × Nat :=
  (row.line, row.column)

namespace View

mutual

/-- What a view says about its nodes, in pre-order. -/
def rows : View → List Row
  | .node kind value delimiter line column children =>
      ⟨kind, value, delimiter, line, column, children.length⟩ :: rowsAll children

/-- What views say about their nodes, in pre-order. -/
def rowsAll : List View → List Row
  | [] => []
  | view :: views => view.rows ++ rowsAll views

end

end View

/-- What is published about one node. -/
def Entry.row (entry : Entry) : View.Row where
  kind := entry.kind.name
  value := entry.value
  delimiter := entry.kind.delimiter?.map fun delimiter => delimiter.openChar.toString
  line := entry.span.line
  column := entry.span.column
  children := entry.children.length

namespace Arena

/-- The view of the tree below a node. -/
def view? (arena : Arena) (number : Nat) : Option View :=
  (arena.subtree? number).map View.ofNode

/-- What is published about a node. -/
def row? (arena : Arena) (number : Nat) : Option View.Row :=
  arena.entry? number |>.map Entry.row

/-- The line and the column of a node. -/
def place? (arena : Arena) (number : Nat) : Option (Nat × Nat) :=
  arena.entry? number |>.map fun entry => (entry.span.line, entry.span.column)

end Arena

/-- Different styles open with different texts. -/
theorem Delimiter.eq_of_openText {left right : Delimiter}
    (same : left.openChar.toString = right.openChar.toString) : left = right := by
  have sameChar : left.openChar = right.openChar := by
    simpa using congrArg String.toList same
  rw [← Option.some.injEq, ← ofOpenChar?_openChar, sameChar, ofOpenChar?_openChar]

/-- The name of a kind and its opening bracket, if it has one, tell the kind. -/
theorem NodeKind.eq_of_name {left right : NodeKind} (sameName : left.name = right.name)
    (sameBracket : (left.delimiter?.map fun delimiter => delimiter.openChar.toString) =
      right.delimiter?.map fun delimiter => delimiter.openChar.toString) : left = right := by
  rcases eq_or_blocks_of_representative (representative_eq_of_name sameName) with
    same | ⟨leftStyle, rightStyle, rfl, rfl⟩
  · exact same
  · rw [Delimiter.eq_of_openText (Option.some.inj sameBracket)]

namespace View

/-- Every tree has its view. -/
@[simp] theorem length_ofNodes (trees : List Node) : (ofNodes trees).length = trees.length := by
  induction trees with
  | nil => rfl
  | cons tree trees inductionHypothesis =>
      rw [ofNodes, List.length_cons, inductionHypothesis, List.length_cons]

mutual

/-- The entries of a tree are published as the rows of its view. -/
theorem map_row_entries (parent : Option Nat) (number : Nat) : ∀ tree : Node,
    (tree.entries parent number).map Entry.row = (ofNode tree).rows
  | .node kind value span children => by
      rw [Node.entries, List.map_cons, map_row_entriesAll, ofNode, rows, length_ofNodes, Entry.row,
        Node.length_numbers]

/-- The entries of neighbouring trees are published as the rows of their views. -/
theorem map_row_entriesAll (parent number : Nat) : ∀ trees : List Node,
    (Node.entriesAll parent number trees).map Entry.row = rowsAll (ofNodes trees)
  | [] => rfl
  | tree :: trees => by
      rw [Node.entriesAll, List.map_append, map_row_entries, map_row_entriesAll, ofNodes, rowsAll]

end

/-- A view has a row for every node. -/
theorem length_rows (tree : Node) : (ofNode tree).rows.length = tree.size := by
  rw [← map_row_entries none 0, List.length_map, Node.length_entries]

end View

namespace Node

mutual

/-- Trees of the same shape have equally many nodes. -/
theorem size_eq_of_sameShape : ∀ {left right : Node}, left.sameShape right = true →
    left.size = right.size
  | .node _ _ _ _, .node _ _ _ _, same => by
      simp only [sameShape, Bool.and_eq_true] at same
      rw [size, size, sizeAll_eq_of_sameShapes same.2]

/-- Lists of trees of the same shapes have equally many nodes. -/
theorem sizeAll_eq_of_sameShapes : ∀ {lefts rights : List Node}, sameShapes lefts rights = true →
    sizeAll lefts = sizeAll rights
  | [], [], _ => rfl
  | _ :: _, _ :: _, same => by
      simp only [sameShapes, Bool.and_eq_true] at same
      rw [sizeAll, sizeAll, size_eq_of_sameShape same.1, sizeAll_eq_of_sameShapes same.2]

end

end Node

namespace View

mutual

/-- Views are equal if their trees have the same shape and report the same places. -/
theorem same_ofNode_iff : ∀ left right : Node, (ofNode left).same (ofNode right) = true ↔
    left.sameShape right = true ∧
      (ofNode left).rows.map Row.place = (ofNode right).rows.map Row.place
  | .node leftKind leftValue leftSpan leftChildren,
    .node rightKind rightValue rightSpan rightChildren => by
      have below := sameAll_ofNodes_iff leftChildren rightChildren
      simp only [ofNode, same, Node.sameShape, rows, List.map_cons, Row.place, List.cons.injEq,
        Prod.mk.injEq, Bool.and_eq_true, beq_iff_eq, below]
      constructor
      · rintro ⟨⟨⟨⟨⟨sameName, sameValue⟩, sameBracket⟩, sameLine⟩, sameColumn⟩, sameBelow⟩
        exact ⟨⟨⟨NodeKind.eq_of_name sameName sameBracket, sameValue⟩, sameBelow.1⟩,
          ⟨sameLine, sameColumn⟩, sameBelow.2⟩
      · rintro ⟨⟨⟨rfl, sameValue⟩, sameShapes⟩, ⟨sameLine, sameColumn⟩, samePlaces⟩
        exact ⟨⟨⟨⟨⟨rfl, sameValue⟩, rfl⟩, sameLine⟩, sameColumn⟩, sameShapes, samePlaces⟩

/-- Lists of views are equal if their trees have the same shapes and report the same places. -/
theorem sameAll_ofNodes_iff : ∀ lefts rights : List Node,
    sameAll (ofNodes lefts) (ofNodes rights) = true ↔ Node.sameShapes lefts rights = true ∧
      (rowsAll (ofNodes lefts)).map Row.place = (rowsAll (ofNodes rights)).map Row.place
  | [], [] => by simp [ofNodes, sameAll, Node.sameShapes]
  | [], _ :: _ => by simp [ofNodes, sameAll, Node.sameShapes]
  | _ :: _, [] => by simp [ofNodes, sameAll, Node.sameShapes]
  | left :: lefts, right :: rights => by
      have first := same_ofNode_iff left right
      have others := sameAll_ofNodes_iff lefts rights
      simp only [ofNodes, sameAll, Node.sameShapes, rowsAll, List.map_append, Bool.and_eq_true,
        first, others]
      constructor
      · rintro ⟨⟨sameFirst, firstPlaces⟩, sameOthers, otherPlaces⟩
        exact ⟨⟨sameFirst, sameOthers⟩, by rw [firstPlaces, otherPlaces]⟩
      · rintro ⟨⟨sameFirst, sameOthers⟩, samePlaces⟩
        -- trees of one shape have equally many rows, so the places part where the trees do
        have lengths : ((ofNode left).rows.map Row.place).length =
            ((ofNode right).rows.map Row.place).length := by
          simp only [List.length_map, length_rows, Node.size_eq_of_sameShape sameFirst]
        obtain ⟨firstPlaces, otherPlaces⟩ := List.append_inj samePlaces lengths
        exact ⟨⟨sameFirst, firstPlaces⟩, sameOthers, otherPlaces⟩

end

end View

namespace Arena

mutual

/-- A tree that is held is read back, if it may be as deep as it has nodes. -/
theorem Holds.subtreeWithin_eq {arena : Arena} : ∀ (tree : Node) {parent : Option Nat}
    {number depth : Nat}, arena.Holds parent number tree → tree.size ≤ depth →
      arena.subtreeWithin depth number = some tree
  | .node kind value span children, parent, number, 0, held, enough =>
      absurd enough (Nat.not_le.mpr (Node.size_pos _))
  | .node kind value span children, parent, number, depth + 1, held, enough => by
      rw [Node.size] at enough
      have below := HoldsAll.mapM_subtreeWithin children held.below
        (Nat.le_of_succ_le_succ enough)
      rw [subtreeWithin, held.entry?_eq]
      change ((Node.numbers (number + 1) children).mapM (arena.subtreeWithin depth)).bind _ = _
      rw [below]
      rfl

/-- Trees that are held are read back, if they may be as deep as they have nodes. -/
theorem HoldsAll.mapM_subtreeWithin {arena : Arena} : ∀ (trees : List Node)
    {above number depth : Nat}, arena.HoldsAll above number trees →
      Node.sizeAll trees ≤ depth →
        (Node.numbers number trees).mapM (arena.subtreeWithin depth) = some trees
  | [], _, _, _, _, _ => rfl
  | tree :: trees, above, number, depth, held, enough => by
      rw [Node.sizeAll] at enough
      rw [Node.numbers, List.mapM_cons, Holds.subtreeWithin_eq tree held.head (by omega),
        HoldsAll.mapM_subtreeWithin trees held.tail (by omega)]
      rfl

end

/-- A tree that is held is what is read back there. -/
theorem Holds.subtree?_eq {arena : Arena} {parent : Option Nat} {number : Nat} {tree : Node}
    (held : arena.Holds parent number tree) : arena.subtree? number = some tree := by
  have room := held.size_le
  exact held.subtreeWithin_eq tree (by omega)

/-- A walk over a tree that is held finds the rows of its view. -/
theorem Holds.map_row?_walk {arena : Arena} {parent : Option Nat} {number : Nat} {tree : Node}
    (held : arena.Holds parent number tree) :
    (arena.walk number).map arena.row? = (View.ofNode tree).rows.map some := by
  calc (arena.walk number).map arena.row?
      = ((arena.walk number).map arena.entry?).map (Option.map Entry.row) := by
        rw [List.map_map]
        rfl
    _ = ((tree.entries parent number).map Entry.row).map some := by
        rw [held.map_entry?_walk, List.map_map, List.map_map]
        rfl
    _ = (View.ofNode tree).rows.map some := by rw [View.map_row_entries]

/-- The places that a walk over an arena finds are those of the rows of its view. -/
theorem map_place?_walk_root (tree : Node) : ((ofNode tree).walk root).map (ofNode tree).place? =
    ((View.ofNode tree).rows.map View.Row.place).map some := by
  have isPlace : (ofNode tree).place? = Option.map View.Row.place ∘ (ofNode tree).row? := by
    funext number
    rw [place?, Function.comp_apply, row?, Option.map_map]
    rfl
  rw [isPlace, ← List.map_map, (holds_ofNode tree).map_row?_walk, List.map_map, List.map_map]
  rfl

end Arena

/-- The published view is faithful. It is built node by node from the numbers of an arena, and
two views are equal exactly if walking the arenas side by side finds them of one shape and
their nodes on the same lines and columns. The view of any node, listed in pre-order, says of
each node what a walk from there finds: the name of the kind, the value (bit for bit), the
opening bracket, the line and the column, and the number of children. -/
theorem Arena.view_isFaithful (left right : Node) :
    let arena := ofNode left
    let other := ofNode right
    arena.view? root = some (.ofNode left) ∧
    ((View.ofNode left).same (.ofNode right) = true ↔
      arena.sameShape other = true ∧
        (arena.walk root).map arena.place? = (other.walk root).map other.place?) ∧
    ∀ number < arena.size, ∃ view, arena.view? number = some view ∧
      (arena.walk number).map arena.row? = view.rows.map some := by
  intro arena other
  refine ⟨?_, ?_, ?_⟩
  · rw [view?, (holds_ofNode left).subtree?_eq, Option.map_some]
  · have places :
        ((View.ofNode left).rows.map View.Row.place).map some =
            ((View.ofNode right).rows.map View.Row.place).map some ↔
          (View.ofNode left).rows.map View.Row.place =
            (View.ofNode right).rows.map View.Row.place :=
      List.map_inj_right fun _ _ => Option.some.inj
    rw [View.same_ofNode_iff, sameShape_ofNode, map_place?_walk_root, map_place?_walk_root, places]
  · intro number inside
    rw [size_ofNode] at inside
    obtain ⟨node, found⟩ := exists_subtree inside
    obtain ⟨parent, held⟩ := exists_holds_of_getElem? found
    refine ⟨.ofNode node, ?_, held.map_row?_walk⟩
    rw [view?, held.subtree?_eq, Option.map_some]

/-- Blocks that hold zeros of different signs and end in different columns have equal views,
and the leaf in a block has a view of its own. -/
theorem Arena.view_isFaithful_of_zeros :
    let left := Node.node (.block .paren) none ⟨0, 5, 1, 1⟩ [.floatLeaf 0 ⟨1, 4, 1, 2⟩]
    let right := Node.node (.block .paren) none ⟨0, 6, 1, 1⟩
      [.floatLeaf 0x8000000000000000 ⟨1, 5, 1, 2⟩]
    (View.ofNode left).same (.ofNode right) = true ∧
      1 < (ofNode left).size ∧ ∃ view, (ofNode left).view? 1 = some view ∧
        ((ofNode left).walk 1).map (ofNode left).row? = view.rows.map some := by
  intro left right
  obtain ⟨-, sameIff, rowsOf⟩ := view_isFaithful left right
  have sameShape : (ofNode left).sameShape (ofNode right) = true := by
    rw [sameShape_ofNode]
    decide
  have inside : 1 < (ofNode left).size := by
    rw [size_ofNode]
    decide
  exact ⟨sameIff.mpr ⟨sameShape, rfl⟩, inside, rowsOf 1 inside⟩

end BlockData
