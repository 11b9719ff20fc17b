import BlockData.Node.WellFormed
import BlockData.Proofs.Tree.Equality
import BlockData.Proofs.Tree.Places

/-!
# Bodies of well-formed trees

A well-formed tree nests two sorts of lists: the statements of a program or a block, and
the parameters of an expression. `IsBody` builds both up at once, node by node, so what
holds of all well-formed trees is shown by one induction with a case for each thing that
a body may start with.
-/

namespace BlockData

/-- The two sorts of lists of nodes. -/
inductive Part where
  | statements
  | parameters
deriving DecidableEq

/-- Lists of nodes that may stand below a program or block, or below a list of
parameters. -/
inductive IsBody : Part → List Node → Prop where
  | nil (part : Part) : IsBody part []
  | expression {kind : ValueKind} {value : Option Value} {span headSpan listSpan : Span}
      {parameters others : List Node} (admitted : kind.admits value = true)
      (below : IsBody .parameters parameters) (behind : IsBody .statements others) :
      IsBody .statements (.node .expression none span
        [.node (.leaf (.value kind)) value headSpan [], .node .paramlist none listSpan parameters]
          :: others)
  | comment {content : String} {span : Span} {others : List Node}
      (isComment : isCommentText content = true) (behind : IsBody .statements others) :
      IsBody .statements (.node (.leaf .comment) (some (.text content)) span [] :: others)
  | block {part : Part} {delimiter : Delimiter} {span : Span} {children others : List Node}
      (below : IsBody .statements children) (behind : IsBody part others) :
      IsBody part (.node (.block delimiter) none span children :: others)
  | value {kind : ValueKind} {value : Option Value} {span : Span} {others : List Node}
      (admitted : kind.admits value = true) (behind : IsBody .parameters others) :
      IsBody .parameters (.node (.leaf (.value kind)) value span [] :: others)

namespace Node

/-- A leaf with a value of an expression. -/
theorem exists_of_isValueLeaf {leaf : Node} (isLeaf : leaf.isValueLeaf = true) :
    ∃ kind value span, leaf = .node (.leaf (.value kind)) value span [] ∧
      kind.admits value = true := by
  unfold isValueLeaf at isLeaf
  split at isLeaf
  · exact ⟨_, _, _, rfl, isLeaf⟩
  · cases isLeaf

mutual

/-- A statement may be put in front of others. -/
theorem isBody_of_isStatement {others : List Node} (behind : IsBody .statements others) :
    ∀ statement : Node, statement.isStatement = true → IsBody .statements (statement :: others)
  | .node kind value span children, isStatement => by
      unfold Node.isStatement at isStatement
      split at isStatement
      · rename_i same
        cases same
        obtain ⟨headKind, headValue, headSpan, listSpan, parameters, rfl, admitted, below⟩ :=
          exists_of_areHeadAndParameters children isStatement
        exact .expression admitted below behind
      · rename_i same
        cases same
        exact .block (isBody_of_areStatements children isStatement) behind
      · rename_i same
        cases same
        exact .comment isStatement behind
      · cases isStatement

/-- Statements are the body of a program or block. -/
theorem isBody_of_areStatements : ∀ statements : List Node, areStatements statements = true →
    IsBody .statements statements
  | [], _ => .nil _
  | first :: rest, areStatements => by
      simp only [Node.areStatements, Bool.and_eq_true] at areStatements
      exact isBody_of_isStatement (isBody_of_areStatements rest areStatements.2) first
        areStatements.1

/-- The children of an expression. -/
theorem exists_of_areHeadAndParameters : ∀ children : List Node,
    areHeadAndParameters children = true → ∃ kind value span listSpan parameters,
      children = [.node (.leaf (.value kind)) value span [],
        .node .paramlist none listSpan parameters] ∧
      kind.admits value = true ∧ IsBody .parameters parameters
  | [], areChildren => by cases areChildren
  | [_], areChildren => by cases areChildren
  | [head, .node kind value span parameters], areChildren => by
      unfold areHeadAndParameters at areChildren
      split at areChildren
      · rename_i same
        cases same
        simp only [Bool.and_eq_true] at areChildren
        obtain ⟨headKind, headValue, headSpan, rfl, admitted⟩ :=
          exists_of_isValueLeaf areChildren.1
        exact ⟨headKind, headValue, headSpan, span, parameters, rfl, admitted,
          isBody_of_areParameters parameters areChildren.2⟩
      · cases areChildren
  | _ :: .node kind value _ _ :: _ :: _, areChildren => by
      cases kind <;> cases value <;> cases areChildren

/-- A parameter may be put in front of others. -/
theorem isBody_of_isParameter {others : List Node} (behind : IsBody .parameters others) :
    ∀ parameter : Node, parameter.isParameter = true → IsBody .parameters (parameter :: others)
  | .node kind value span children, isParameter => by
      unfold Node.isParameter at isParameter
      split at isParameter
      · rename_i same
        cases same
        exact .block (isBody_of_areStatements children isParameter) behind
      · obtain ⟨leafKind, leafValue, leafSpan, isLeaf, admitted⟩ :=
          exists_of_isValueLeaf isParameter
        rw [isLeaf]
        exact .value admitted behind

/-- Parameters are the body of an expression. -/
theorem isBody_of_areParameters : ∀ parameters : List Node, areParameters parameters = true →
    IsBody .parameters parameters
  | [], _ => .nil _
  | first :: rest, areParameters => by
      simp only [Node.areParameters, Bool.and_eq_true] at areParameters
      exact isBody_of_isParameter (isBody_of_areParameters rest areParameters.2) first
        areParameters.1

end

/-- Whether nodes are of one of the sorts. -/
def areOf : Part → List Node → Bool
  | .statements => areStatements
  | .parameters => areParameters

end Node

/-- The bodies are what is checked on trees. -/
theorem isBody_iff {part : Part} {nodes : List Node} :
    IsBody part nodes ↔ Node.areOf part nodes = true := by
  constructor
  · intro body
    induction body with
    | nil part => cases part <;> rfl
    | expression admitted below behind belowHypothesis behindHypothesis =>
        simp_all [Node.areOf, Node.areStatements, Node.isStatement, Node.areHeadAndParameters,
          Node.isValueLeaf]
    | comment isComment behind behindHypothesis =>
        simp_all [Node.areOf, Node.areStatements, Node.isStatement]
    | @block part _ _ _ _ below behind belowHypothesis behindHypothesis =>
        cases part <;>
          simp_all [Node.areOf, Node.areStatements, Node.isStatement, Node.areParameters,
            Node.isParameter]
    | value admitted behind behindHypothesis =>
        simp_all [Node.areOf, Node.areParameters, Node.isParameter, Node.isValueLeaf]
  · intro nodesAre
    cases part with
    | statements => exact Node.isBody_of_areStatements nodes nodesAre
    | parameters => exact Node.isBody_of_areParameters nodes nodesAre

namespace Node

/-- A well-formed tree is a root over a program over a body. -/
theorem isWellFormed_iff {tree : Node} :
    tree.isWellFormed = true ↔ ∃ span programSpan statements,
      tree = .node .root none span [.node .program none programSpan statements] ∧
        IsBody .statements statements := by
  constructor
  · intro wellFormed
    unfold isWellFormed at wellFormed
    split at wellFormed
    · exact ⟨_, _, _, rfl, isBody_iff.mpr wellFormed⟩
    · cases wellFormed
  · rintro ⟨span, programSpan, statements, rfl, body⟩
    exact isBody_iff.mp body

end Node

/-- A finite number is a number. -/
theorem Binary64.isNaN_of_isFinite {number : Binary64} (finite : number.isFinite = true) :
    number.isNaN = false := by
  simp only [isFinite, isNaN, decide_eq_true_eq, decide_eq_false_iff_not] at finite ⊢
  omega

/-- A number that equals a finite one is finite. -/
theorem Binary64.isFinite_of_sameNumber {left right : Binary64}
    (same : left.sameNumber right = true) (finite : right.isFinite = true) :
    left.isFinite = true := by
  simp only [sameNumber, Bool.and_eq_true, Bool.or_eq_true, beq_iff_eq] at same
  rcases same.2 with sameBits | ⟨leftZero, -⟩
  · simp only [isFinite, magnitude, sameBits] at finite ⊢
    exact finite
  · simp [isFinite, leftZero, infinityBits, hiddenBit]

namespace ValueKind

/-- A value that a leaf can hold equals itself. -/
theorem sameOptional_self_of_admits {kind : ValueKind} {value : Option Value}
    (admitted : kind.admits value = true) : Value.sameOptional value value = true := by
  cases value with
  | none => rfl
  | some value =>
      cases value with
      | integer number => simp [Value.sameOptional, Value.same]
      | float number =>
          have finite : number.isFinite = true := by
            cases kind <;> first | exact admitted | cases admitted
          change number.sameNumber number = true
          rw [number.sameNumber_self, Binary64.isNaN_of_isFinite finite, Bool.not_false]
      | text content => simp [Value.sameOptional, Value.same]

/-- A leaf can hold whatever equals a value that it can hold. -/
theorem admits_of_sameOptional {kind : ValueKind} {left right : Option Value}
    (same : Value.sameOptional left right = true) (admitted : kind.admits right = true) :
    kind.admits left = true := by
  rcases left with _ | left <;> rcases right with _ | right
  · exact admitted
  · cases same
  · cases same
  · cases left <;> cases right <;>
      simp only [Value.sameOptional, Value.same, beq_iff_eq, Bool.false_eq_true] at same
    case integer.integer => rwa [same]
    case text.text => rwa [same]
    case float.float =>
      cases kind
      case float => exact Binary64.isFinite_of_sameNumber same admitted
      all_goals cases admitted

end ValueKind

namespace Node

/-- What trees look like that differ in places only from some trees. -/
theorem exists_of_unplacedAll_cons {kind : NodeKind} {value : Option Value} {span : Span}
    {children trees others : List Node}
    (same : unplacedAll (.node kind value span children :: trees) = unplacedAll others) :
    ∃ otherSpan otherChildren otherTrees,
      others = .node kind value otherSpan otherChildren :: otherTrees ∧
        unplacedAll children = unplacedAll otherChildren ∧
        unplacedAll trees = unplacedAll otherTrees := by
  cases others with
  | nil => cases same
  | cons other others =>
      obtain ⟨otherKind, otherValue, otherSpan, otherChildren⟩ := other
      simp only [unplacedAll, unplaced, List.cons.injEq, Node.node.injEq, true_and] at same
      obtain ⟨⟨rfl, rfl, sameChildren⟩, sameTrees⟩ := same
      exact ⟨otherSpan, otherChildren, others, rfl, sameChildren, sameTrees⟩

/-- Only no trees differ in places only from no trees. -/
theorem eq_nil_of_unplacedAll {others : List Node} (same : unplacedAll [] = unplacedAll others) :
    others = [] := by
  cases others with
  | nil => rfl
  | cons other others => cases same

/-- What trees look like that have the shapes of some trees. -/
theorem exists_of_sameShapes_cons {kind : NodeKind} {value : Option Value} {span : Span}
    {children trees others : List Node}
    (same : sameShapes others (.node kind value span children :: trees) = true) :
    ∃ otherValue otherSpan otherChildren otherTrees,
      others = .node kind otherValue otherSpan otherChildren :: otherTrees ∧
        Value.sameOptional otherValue value = true ∧ sameShapes otherChildren children = true ∧
        sameShapes otherTrees trees = true := by
  cases others with
  | nil => cases same
  | cons other others =>
      obtain ⟨otherKind, otherValue, otherSpan, otherChildren⟩ := other
      simp only [sameShapes, sameShape, Bool.and_eq_true, beq_iff_eq] at same
      obtain ⟨⟨⟨rfl, sameValue⟩, sameChildren⟩, sameTrees⟩ := same
      exact ⟨otherValue, otherSpan, otherChildren, others, rfl, sameValue, sameChildren, sameTrees⟩

/-- Only no trees have the shapes of no trees. -/
theorem eq_nil_of_sameShapes {others : List Node} (same : sameShapes others [] = true) :
    others = [] := by
  cases others with
  | nil => rfl
  | cons other others => cases same

end Node

/-- What has the shape of no value is no value. -/
theorem Value.eq_none_of_sameOptional {value : Option Value}
    (same : Value.sameOptional value none = true) : value = none := by
  cases value with
  | none => rfl
  | some value => cases same

/-- What equals a text is that text. -/
theorem Value.eq_text_of_sameOptional {value : Option Value} {content : String}
    (same : Value.sameOptional value (some (.text content)) = true) :
    value = some (.text content) := by
  cases value with
  | none => cases same
  | some value =>
      cases value with
      | text other => rw [of_decide_eq_true same]
      | _ => cases same

namespace IsBody

/-- Bodies that differ in places only have the same shapes. -/
theorem sameShapes_of_unplacedAll {part : Part} {nodes others : List Node}
    (body : IsBody part nodes) (same : Node.unplacedAll nodes = Node.unplacedAll others) :
    Node.sameShapes nodes others = true := by
  induction body generalizing others with
  | nil part =>
      obtain rfl := Node.eq_nil_of_unplacedAll same
      rfl
  | expression admitted below behind belowHypothesis behindHypothesis =>
      obtain ⟨_, _, _, rfl, sameChildren, sameTrees⟩ := Node.exists_of_unplacedAll_cons same
      obtain ⟨_, _, _, rfl, sameHead, sameRest⟩ := Node.exists_of_unplacedAll_cons sameChildren
      obtain ⟨_, _, _, rfl, sameParameters, sameEnd⟩ := Node.exists_of_unplacedAll_cons sameRest
      obtain rfl := Node.eq_nil_of_unplacedAll sameHead
      obtain rfl := Node.eq_nil_of_unplacedAll sameEnd
      have sameValue := ValueKind.sameOptional_self_of_admits admitted
      have none : Value.sameOptional none none = true := rfl
      simp [Node.sameShapes, Node.sameShape, none, sameValue, belowHypothesis sameParameters,
        behindHypothesis sameTrees]
  | comment isComment behind behindHypothesis =>
      obtain ⟨_, _, _, rfl, sameChildren, sameTrees⟩ := Node.exists_of_unplacedAll_cons same
      obtain rfl := Node.eq_nil_of_unplacedAll sameChildren
      simp [Node.sameShapes, Node.sameShape, Value.sameOptional, Value.same,
        behindHypothesis sameTrees]
  | block below behind belowHypothesis behindHypothesis =>
      obtain ⟨_, _, _, rfl, sameChildren, sameTrees⟩ := Node.exists_of_unplacedAll_cons same
      simp [Node.sameShapes, Node.sameShape, Value.sameOptional, belowHypothesis sameChildren,
        behindHypothesis sameTrees]
  | value admitted behind behindHypothesis =>
      obtain ⟨_, _, _, rfl, sameChildren, sameTrees⟩ := Node.exists_of_unplacedAll_cons same
      obtain rfl := Node.eq_nil_of_unplacedAll sameChildren
      have sameValue := ValueKind.sameOptional_self_of_admits admitted
      simp [Node.sameShapes, Node.sameShape, sameValue, behindHypothesis sameTrees]

/-- Nodes of the shapes of a body are a body. -/
theorem of_sameShapes {part : Part} {nodes others : List Node} (body : IsBody part nodes)
    (same : Node.sameShapes others nodes = true) : IsBody part others := by
  induction body generalizing others with
  | nil part =>
      obtain rfl := Node.eq_nil_of_sameShapes same
      exact .nil part
  | expression admitted below behind belowHypothesis behindHypothesis =>
      obtain ⟨_, _, _, _, rfl, noValue, sameChildren, sameTrees⟩ :=
        Node.exists_of_sameShapes_cons same
      obtain ⟨_, _, _, _, rfl, sameValue, sameHead, sameRest⟩ :=
        Node.exists_of_sameShapes_cons sameChildren
      obtain ⟨_, _, _, _, rfl, noListValue, sameParameters, sameEnd⟩ :=
        Node.exists_of_sameShapes_cons sameRest
      obtain rfl := Value.eq_none_of_sameOptional noValue
      obtain rfl := Value.eq_none_of_sameOptional noListValue
      obtain rfl := Node.eq_nil_of_sameShapes sameHead
      obtain rfl := Node.eq_nil_of_sameShapes sameEnd
      exact .expression (ValueKind.admits_of_sameOptional sameValue admitted)
        (belowHypothesis sameParameters) (behindHypothesis sameTrees)
  | comment isComment behind behindHypothesis =>
      obtain ⟨_, _, _, _, rfl, sameValue, sameChildren, sameTrees⟩ :=
        Node.exists_of_sameShapes_cons same
      obtain rfl := Node.eq_nil_of_sameShapes sameChildren
      obtain rfl := Value.eq_text_of_sameOptional sameValue
      exact .comment isComment (behindHypothesis sameTrees)
  | block below behind belowHypothesis behindHypothesis =>
      obtain ⟨_, _, _, _, rfl, noValue, sameChildren, sameTrees⟩ :=
        Node.exists_of_sameShapes_cons same
      obtain rfl := Value.eq_none_of_sameOptional noValue
      exact .block (belowHypothesis sameChildren) (behindHypothesis sameTrees)
  | value admitted behind behindHypothesis =>
      obtain ⟨_, _, _, _, rfl, sameValue, sameChildren, sameTrees⟩ :=
        Node.exists_of_sameShapes_cons same
      obtain rfl := Node.eq_nil_of_sameShapes sameChildren
      exact .value (ValueKind.admits_of_sameOptional sameValue admitted)
        (behindHypothesis sameTrees)

end IsBody

namespace Node

/-- A well-formed tree has the shape of every tree that differs from it in places only. -/
theorem sameShape_of_unplaced {left right : Node} (wellFormed : left.isWellFormed = true)
    (same : left.unplaced = right.unplaced) : left.sameShape right = true := by
  obtain ⟨span, programSpan, statements, rfl, body⟩ := isWellFormed_iff.mp wellFormed
  have all : unplacedAll [.node .root none span [.node .program none programSpan statements]] =
      unplacedAll [right] := congrArg (fun tree => [tree]) same
  obtain ⟨_, _, _, isRoot, sameProgram, -⟩ := exists_of_unplacedAll_cons all
  obtain ⟨_, _, _, rfl, sameStatements, sameEnd⟩ := exists_of_unplacedAll_cons sameProgram
  obtain rfl := eq_nil_of_unplacedAll sameEnd
  obtain ⟨rfl, rfl⟩ := List.cons.inj isRoot
  simp [sameShape, sameShapes, Value.sameOptional, body.sameShapes_of_unplacedAll sameStatements]

/-- A tree of the shape of a well-formed tree is well formed. -/
theorem isWellFormed_of_sameShape {left right : Node} (same : left.sameShape right = true)
    (wellFormed : right.isWellFormed = true) : left.isWellFormed = true := by
  obtain ⟨span, programSpan, statements, rfl, body⟩ := isWellFormed_iff.mp wellFormed
  have all :
      sameShapes [left] [.node .root none span [.node .program none programSpan statements]] =
        true := by
    rw [sameShapes, same, sameShapes, Bool.and_true]
  obtain ⟨_, _, _, _, isRoot, noValue, sameProgram, -⟩ := exists_of_sameShapes_cons all
  obtain ⟨_, _, _, _, rfl, noProgramValue, sameStatements, sameEnd⟩ :=
    exists_of_sameShapes_cons sameProgram
  obtain rfl := eq_nil_of_sameShapes sameEnd
  obtain rfl := Value.eq_none_of_sameOptional noValue
  obtain rfl := Value.eq_none_of_sameOptional noProgramValue
  obtain ⟨rfl, rfl⟩ := List.cons.inj isRoot
  exact isWellFormed_iff.mpr ⟨_, _, _, rfl, body.of_sameShapes sameStatements⟩

end Node

end BlockData
