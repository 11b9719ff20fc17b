import BlockData.Node.Canonical

/-!
# Trees without places

What a tree says apart from where it was read. `Node.unplaced` puts every node at the
start of the text, so trees that agree in kinds, values (bit for bit) and order of
children are the ones with the same `unplaced`. Canonical text never looks at a place.
-/

namespace BlockData

/-- The place that stands for none. -/
def Span.origin : Span :=
  ⟨0, 0, 1, 1⟩

namespace Node

mutual

/-- The tree with every node at the start of the text. -/
def unplaced : Node → Node
  | .node kind value _ children => .node kind value Span.origin (unplacedAll children)

/-- The trees with every node at the start of the text. -/
def unplacedAll : List Node → List Node
  | [] => []
  | tree :: trees => tree.unplaced :: unplacedAll trees

end

@[simp] theorem kind_unplaced (tree : Node) : tree.unplaced.kind = tree.kind := by
  cases tree
  rfl

@[simp] theorem value_unplaced (tree : Node) : tree.unplaced.value = tree.value := by
  cases tree
  rfl

@[simp] theorem children_unplaced (tree : Node) :
    tree.unplaced.children = unplacedAll tree.children := by
  cases tree
  rfl

/-- Nodes are moved one by one. -/
theorem unplacedAll_eq_map (trees : List Node) : unplacedAll trees = trees.map unplaced := by
  induction trees with
  | nil => rfl
  | cons tree trees inductionHypothesis => rw [unplacedAll, inductionHypothesis, List.map_cons]

@[simp] theorem unplacedAll_append (first second : List Node) :
    unplacedAll (first ++ second) = unplacedAll first ++ unplacedAll second := by
  simp [unplacedAll_eq_map]

/-- A leaf is written in the same way wherever it stands. -/
@[simp] theorem valueText_unplaced (leaf : Node) : leaf.unplaced.valueText = leaf.valueText := by
  simp [valueText, leafText]

mutual

/-- A statement is laid out in the same way wherever its nodes stand. -/
theorem statementPieces_unplaced (depth : Nat) : ∀ statement : Node,
    statement.unplaced.statementPieces depth = statement.statementPieces depth
  | .node .expression _ _ children => by
      simp only [unplaced, statementPieces]
      exact expressionPieces_unplaced depth children
  | .node (.block delimiter) _ _ children => by
      simp only [unplaced, statementPieces]
      exact blockPieces_unplaced depth delimiter children
  | .node (.leaf kind) _ _ _ => by cases kind <;> rfl
  | .node .root _ _ _ => rfl
  | .node .program _ _ _ => rfl
  | .node .paramlist _ _ _ => rfl
  | .node .blank _ _ _ => rfl

/-- The children of an expression are laid out in the same way wherever they stand. -/
theorem expressionPieces_unplaced (depth : Nat) : ∀ children : List Node,
    expressionPieces depth (unplacedAll children) = expressionPieces depth children
  | [] => rfl
  | [_] => rfl
  | [head, .node kind _ _ parameters] => by
      cases kind with
      | paramlist =>
          simp only [unplacedAll, unplaced, expressionPieces, valueText_unplaced,
            parameterPieces_unplaced depth parameters]
      | _ => rfl
  | _ :: .node kind _ _ _ :: _ :: _ => by cases kind <;> rfl

/-- Parameters are laid out in the same way wherever they stand. -/
theorem parameterPieces_unplaced (depth : Nat) : ∀ parameters : List Node,
    parameterPieces depth (unplacedAll parameters) = parameterPieces depth parameters
  | [] => rfl
  | .node kind value span children :: rest => by
      have leaf := valueText_unplaced (.node kind value span children)
      rw [unplaced] at leaf
      cases kind with
      | block delimiter =>
          simp only [unplacedAll, unplaced, parameterPieces, blockPieces_unplaced depth _ children,
            parameterPieces_unplaced depth rest]
      | _ =>
          simp only [unplacedAll, unplaced, parameterPieces, leaf,
            parameterPieces_unplaced depth rest]

/-- A block is laid out in the same way wherever its statements stand. -/
theorem blockPieces_unplaced (depth : Nat) (delimiter : Delimiter) : ∀ children : List Node,
    blockPieces depth delimiter (unplacedAll children) = blockPieces depth delimiter children
  | [] => rfl
  | first :: rest => by
      simp only [unplacedAll, blockPieces, statementPieces_unplaced (depth + 1) first,
        linesPieces_unplaced (depth + 1) rest]

/-- Statements are laid out in the same way wherever they stand. -/
theorem linesPieces_unplaced (depth : Nat) : ∀ statements : List Node,
    linesPieces depth (unplacedAll statements) = linesPieces depth statements
  | [] => rfl
  | statement :: rest => by
      simp only [unplacedAll, linesPieces, statementPieces_unplaced depth statement,
        linesPieces_unplaced depth rest]

end

/-- The statements of a program are laid out in the same way wherever they stand. -/
theorem programPieces_unplaced (statements : List Node) :
    programPieces (unplacedAll statements) = programPieces statements := by
  induction statements with
  | nil => rfl
  | cons statement rest inductionHypothesis =>
      simp only [unplacedAll, programPieces, statementPieces_unplaced, inductionHypothesis]

/-- The program of a tree is found wherever its nodes stand. -/
theorem program?_unplaced (tree : Node) : tree.unplaced.program? = tree.program?.map unplaced := by
  obtain ⟨kind, value, span, children⟩ := tree
  cases kind with
  | root =>
      cases children with
      | nil => rfl
      | cons first rest =>
          change (if first.unplaced.kind == .program then some first.unplaced else none) =
            (if first.kind == .program then some first else none).map unplaced
          rw [kind_unplaced, apply_ite (Option.map unplaced), Option.map_some, Option.map_none]
  | _ => rfl

/-- Canonical text does not depend on places. -/
@[simp] theorem canonical_unplaced (indent : Nat) (tree : Node) :
    tree.unplaced.canonical indent = tree.canonical indent := by
  rw [canonical, canonical, program?_unplaced]
  cases tree.program? with
  | none => rfl
  | some program => simp only [Option.map_some, children_unplaced, programPieces_unplaced]

/-- Trees that differ in places only have the same canonical text. -/
theorem canonical_congr {left right : Node} (same : left.unplaced = right.unplaced)
    (indent : Nat) : left.canonical indent = right.canonical indent := by
  rw [← canonical_unplaced, same, canonical_unplaced]

end Node

end BlockData
