import BlockData.Proofs.Tree.Shape
import BlockData.Proofs.Tree.Subtrees

/-!
# Equality of shapes

Arenas are compared by two walks side by side, and this is equality of their trees node by
node (`Arena.sameShape_isStructural`). Values are compared as numbers and texts, so the
comparison is symmetric and transitive, and the only trees that differ from themselves are
those that hold what is no number.
-/

namespace BlockData

namespace Binary64

/-- Equality of numbers is symmetric. -/
theorem sameNumber_comm (left right : Binary64) :
    left.sameNumber right = right.sameNumber left := by
  rw [sameNumber, sameNumber, Bool.and_comm (!left.isNaN), Bool.and_comm (left.magnitude == 0),
    Bool.beq_comm]

/-- A number equals itself, and nothing else does. -/
theorem sameNumber_self (number : Binary64) : number.sameNumber number = !number.isNaN := by
  rw [sameNumber, beq_self_eq_true, Bool.true_or, Bool.and_true, Bool.and_self]

/-- Zero equals the zeros only. -/
theorem sameNumber_of_zero {number : Binary64} (isZero : number.magnitude = 0)
    (other : Binary64) : number.sameNumber other = (other.magnitude == 0) := by
  have ordered : number.isNaN = false := by simp [isNaN, isZero]
  by_cases otherZero : other.magnitude = 0
  · have otherOrdered : other.isNaN = false := by simp [isNaN, otherZero]
    simp [sameNumber, ordered, otherOrdered, isZero, otherZero]
  · have different : (number.bits == other.bits) = false := by
      refine beq_eq_false_iff_ne.mpr fun sameBits => ?_
      rw [magnitude, ← sameBits] at otherZero
      exact otherZero isZero
    have nonzero : (other.magnitude == 0) = false := beq_eq_false_iff_ne.mpr otherZero
    simp only [sameNumber, different, nonzero, Bool.and_false, Bool.or_false]

end Binary64

namespace Value

/-- Equal values are the same, or floats that are both zero. -/
theorem eq_or_zeros_of_same {left right : Value} (same : left.same right = true) :
    left = right ∨ ∃ leftZero rightZero, left = .float leftZero ∧ right = .float rightZero ∧
      leftZero.magnitude = 0 ∧ rightZero.magnitude = 0 := by
  cases left with
  | integer left =>
      cases right with
      | integer right => exact .inl (congrArg _ (beq_iff_eq.mp same))
      | _ => cases same
  | text left =>
      cases right with
      | text right => exact .inl (congrArg _ (beq_iff_eq.mp same))
      | _ => cases same
  | float left =>
      cases right with
      | float right =>
          simp only [Value.same, Binary64.sameNumber, Bool.and_eq_true, Bool.or_eq_true,
            beq_iff_eq] at same
          rcases same.2 with sameBits | zeros
          · cases left
            cases right
            exact .inl (congrArg _ (congrArg _ sameBits))
          · exact .inr ⟨left, right, rfl, rfl, zeros⟩
      | _ => cases same

/-- Equality of values is symmetric. -/
theorem sameOptional_comm (left right : Option Value) :
    sameOptional left right = sameOptional right left := by
  rcases left with _ | left <;> rcases right with _ | right <;> try rfl
  cases left <;> cases right <;> try rfl
  · exact Bool.beq_comm
  · exact Binary64.sameNumber_comm ..
  · exact Bool.beq_comm

/-- Equality of values is transitive. -/
theorem same_trans {left middle right : Value} (first : left.same middle = true)
    (second : middle.same right = true) : left.same right = true := by
  rcases eq_or_zeros_of_same first with rfl | ⟨leftZero, middleZero, rfl, rfl, isLeft, isMiddle⟩
  · exact second
  · rcases eq_or_zeros_of_same second with rfl | ⟨_, rightZero, -, rfl, -, isRight⟩
    · exact first
    · exact (Binary64.sameNumber_of_zero isLeft rightZero).trans (beq_iff_eq.mpr isRight)

/-- Equality of optional values is transitive. -/
theorem sameOptional_trans : ∀ {left middle right : Option Value},
    sameOptional left middle = true → sameOptional middle right = true →
      sameOptional left right = true
  | none, none, none, _, _ => rfl
  | some _, some _, some _, first, second => same_trans first second

/-- Whether a value is a float that is no number. -/
def isNaN : Value → Bool
  | .float number => number.isNaN
  | _ => false

/-- A value equals itself unless it is no number. -/
theorem sameOptional_self (value : Option Value) :
    sameOptional value value = !value.any isNaN := by
  rcases value with _ | (number | number | content)
  · rfl
  · exact beq_self_eq_true number
  · exact number.sameNumber_self
  · exact beq_self_eq_true content

end Value

namespace Node

mutual

/-- Equality of shapes is symmetric. -/
theorem sameShape_comm : ∀ left right : Node, left.sameShape right = right.sameShape left
  | .node leftKind leftValue _ leftChildren, .node rightKind rightValue _ rightChildren => by
      rw [sameShape, sameShape, Value.sameOptional_comm leftValue rightValue,
        sameShapes_comm leftChildren rightChildren, Bool.beq_comm]

/-- Equality of the shapes of lists of trees is symmetric. -/
theorem sameShapes_comm : ∀ lefts rights : List Node,
    sameShapes lefts rights = sameShapes rights lefts
  | [], [] => rfl
  | [], _ :: _ => rfl
  | _ :: _, [] => rfl
  | left :: lefts, right :: rights => by
      rw [sameShapes, sameShapes, sameShape_comm left right, sameShapes_comm lefts rights]

end

mutual

/-- Equality of shapes is transitive. -/
theorem sameShape_trans : ∀ {left middle right : Node}, left.sameShape middle = true →
    middle.sameShape right = true → left.sameShape right = true
  | .node _ _ _ _, .node _ _ _ _, .node _ _ _ _, first, second => by
      simp only [sameShape, Bool.and_eq_true, beq_iff_eq] at first second ⊢
      exact ⟨⟨first.1.1.trans second.1.1, Value.sameOptional_trans first.1.2 second.1.2⟩,
        sameShapes_trans first.2 second.2⟩

/-- Equality of the shapes of lists of trees is transitive. -/
theorem sameShapes_trans : ∀ {lefts middles rights : List Node},
    sameShapes lefts middles = true → sameShapes middles rights = true →
      sameShapes lefts rights = true
  | [], [], [], _, _ => rfl
  | _ :: _, _ :: _, _ :: _, first, second => by
      simp only [sameShapes, Bool.and_eq_true] at first second ⊢
      exact ⟨sameShape_trans first.1 second.1, sameShapes_trans first.2 second.2⟩

end

mutual

/-- A tree has its own shape unless it holds what is no number. -/
theorem sameShape_self : ∀ tree : Node,
    tree.sameShape tree = tree.subtrees.all fun node => !node.value.any Value.isNaN
  | .node kind value span children => by
      rw [sameShape, subtrees, List.all_cons, beq_self_eq_true, Bool.true_and,
        Value.sameOptional_self, sameShapes_self children]
      rfl

/-- Trees have their own shapes unless one of them holds what is no number. -/
theorem sameShapes_self : ∀ trees : List Node,
    sameShapes trees trees = (subtreesAll trees).all fun node => !node.value.any Value.isNaN
  | [] => rfl
  | tree :: trees => by
      rw [sameShapes, subtreesAll, List.all_append, sameShape_self tree, sameShapes_self trees]

end

end Node

/-- The comparison of arenas is structural. Walking two arenas side by side finds them equal
exactly if their trees are equal node by node: in kinds, in values as numbers and texts, and in
their children one by one, wherever the nodes stand. So the comparison is symmetric and
transitive, and an arena equals itself exactly if it holds nothing that is no number. -/
theorem Arena.sameShape_isStructural (left right : Node) :
    (ofNode left).sameShape (ofNode right) = left.sameShape right ∧
    (ofNode left).sameShape (ofNode right) = (ofNode right).sameShape (ofNode left) ∧
    (∀ middle, (ofNode left).sameShape (ofNode middle) = true →
      (ofNode middle).sameShape (ofNode right) = true →
        (ofNode left).sameShape (ofNode right) = true) ∧
    ((ofNode left).sameShape (ofNode left) = true ↔
      ∀ node ∈ left.subtrees, node.value.any Value.isNaN = false) := by
  simp only [sameShape_ofNode]
  refine ⟨trivial, Node.sameShape_comm left right, fun _ => Node.sameShape_trans, ?_⟩
  simp only [Node.sameShape_self, List.all_eq_true, Bool.not_eq_true']

/-- The leaf of a float at a place. -/
def Node.floatLeaf (bits : UInt64) (span : Span) : Node :=
  .node (.leaf (.value .float)) (some (.float ⟨bits⟩)) span []

/-- Zeros of both signs are equal wherever they stand, and what is no number is not equal to
itself. -/
theorem Arena.sameShape_isStructural_of_floats :
    let first := ofNode (.floatLeaf 0 ⟨0, 3, 1, 1⟩)
    let second := ofNode (.floatLeaf 0x8000000000000000 ⟨4, 8, 2, 1⟩)
    let third := ofNode (.floatLeaf 0 ⟨9, 12, 3, 1⟩)
    let noNumber := ofNode (.floatLeaf 0x7ff8000000000000 ⟨0, 3, 1, 1⟩)
    first.sameShape second = true ∧ second.sameShape third = true ∧
      first.sameShape third = true ∧ ¬ noNumber.sameShape noNumber = true := by
  intro first second third noNumber
  have firstSame : first.sameShape second = true := by
    rw [sameShape_ofNode]
    decide
  have secondSame : second.sameShape third = true := by
    rw [sameShape_ofNode]
    decide
  obtain ⟨-, -, transitive, -⟩ := sameShape_isStructural (.floatLeaf 0 ⟨0, 3, 1, 1⟩)
    (.floatLeaf 0 ⟨9, 12, 3, 1⟩)
  refine ⟨firstSame, secondSame, transitive _ firstSame secondSame, fun isSelf => ?_⟩
  obtain ⟨-, -, -, reflexive⟩ := sameShape_isStructural
    (.floatLeaf 0x7ff8000000000000 ⟨0, 3, 1, 1⟩) (.floatLeaf 0 ⟨0, 3, 1, 1⟩)
  have isNumber := reflexive.mp isSelf _ List.mem_cons_self
  revert isNumber
  decide

end BlockData
