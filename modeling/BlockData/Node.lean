import BlockData.Token

/-!
# Nodes

A parsed text is a tree of nodes: one for each rule of the grammar that is kept,
and a leaf for each token that carries meaning. Nothing in the type ties kinds,
values and children together; the parser builds well-formed trees, and the
printers answer for all of them.
-/

namespace BlockData

/-- What a node stands for: a rule of the grammar, or a token. -/
inductive NodeKind where
  | root
  | program
  | expression
  | paramlist
  | blank
  | block (delimiter : Delimiter)
  | leaf (kind : Kind)
deriving DecidableEq, Repr

namespace NodeKind

/-- The name of a node kind in output. Blocks of all styles have one name. -/
def name : NodeKind → String
  | .root => "root"
  | .program => "program"
  | .expression => "expression"
  | .paramlist => "paramlist"
  | .blank => "blank"
  | .block _ => "block"
  | .leaf kind => kind.name

/-- The style of a block. -/
def delimiter? : NodeKind → Option Delimiter
  | .block delimiter => some delimiter
  | _ => none

/-- Whether a node is a block. -/
def isBlock (kind : NodeKind) : Bool :=
  kind.delimiter?.isSome

end NodeKind

/-- A tree of nodes. -/
inductive Node where
  | node (kind : NodeKind) (value : Option Value) (span : Span) (children : List Node)

namespace Node

/-- What the topmost node stands for. -/
def kind : Node → NodeKind
  | .node kind _ _ _ => kind

/-- The value of the topmost node. -/
def value : Node → Option Value
  | .node _ value _ _ => value

/-- The place of the topmost node. -/
def span : Node → Span
  | .node _ _ span _ => span

/-- The subtrees below the topmost node. -/
def children : Node → List Node
  | .node _ _ _ children => children

/-- The leaf of a token. -/
def ofToken (token : Token) : Node :=
  .node (.leaf token.kind) token.value token.span []

/-- The program of a tree: the tree itself, or the first child of a root. -/
def program? (tree : Node) : Option Node :=
  match tree.kind with
  | .program => some tree
  | .root => tree.children.head?.filter fun child => child.kind == .program
  | _ => none

mutual

/-- The number of nodes of a tree. -/
def size : Node → Nat
  | .node _ _ _ children => sizeAll children + 1

/-- The number of nodes of some trees. -/
def sizeAll : List Node → Nat
  | [] => 0
  | tree :: trees => tree.size + sizeAll trees

end

mutual

/-- Equality of trees in kinds, values and order of children. Values are
compared by `Value.same`, and places are not compared. -/
def sameShape : Node → Node → Bool
  | .node leftKind leftValue _ leftChildren, .node rightKind rightValue _ rightChildren =>
      leftKind == rightKind && Value.sameOptional leftValue rightValue &&
        sameShapes leftChildren rightChildren

/-- Equality of lists of trees, tree by tree. -/
def sameShapes : List Node → List Node → Bool
  | [], [] => true
  | left :: lefts, right :: rights => left.sameShape right && sameShapes lefts rights
  | _, _ => false

end

end Node

end BlockData
