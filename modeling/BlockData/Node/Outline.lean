import BlockData.Layout
import BlockData.Lexeme.Quoted
import BlockData.Node

/-!
# Outlines

The outline of a tree is an S-expression with one node on a line: its kind, the
style of a block or the value of a leaf, and its children two spaces deeper.
-/

namespace BlockData.Node

/-- What an outline says about a node. -/
def label (kind : NodeKind) (value : Option Value) : String :=
  match kind, value with
  | .block delimiter, _ => kind.name ++ " " ++ delimiter.name
  | .leaf (.value .string), some (.text content) =>
      kind.name ++ " " ++ String.ofList (quote content.toList)
  | _, some value => kind.name ++ " " ++ value.display
  | _, none => kind.name

mutual

/-- The outline of a tree that starts on a line of some depth, and what follows. -/
def outlineOnto (depth : Nat) (following : List Piece) : Node → List Piece
  | .node kind value _ children =>
      .text ("(" ++ label kind value) ::
        outlineAllOnto (depth + 1) (.text ")" :: following) children

/-- The outlines of trees, each on a new line, and what follows. -/
def outlineAllOnto (depth : Nat) (following : List Piece) : List Node → List Piece
  | [] => following
  | tree :: trees =>
      .newLine depth :: outlineOnto depth (outlineAllOnto depth following trees) tree

end

/-- The outline of a tree. -/
def outline (tree : Node) : String :=
  renderPieces 2 (tree.outlineOnto 0 [.newLine 0])

end BlockData.Node
