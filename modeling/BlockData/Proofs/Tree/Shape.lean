import BlockData.Proofs.Tree.PreOrder

/-!
# Shapes of arenas

Two arenas have the same shape exactly when their trees have (`sameShape_ofNode`):
the entries in pre-order, each with its number of children, leave no freedom in how
the trees are built.
-/

namespace BlockData

namespace Arena

/-- Whether lists of entries agree entry by entry. -/
def entriesAgreeAll : List Entry → List Entry → Bool
  | [], [] => true
  | left :: lefts, right :: rights => entriesAgree left right && entriesAgreeAll lefts rights
  | _, _ => false

/-- Visits of all numbers from some on compare the entries there. -/
theorem visitsAgree_range' (left right : Arena) (leftStart rightStart : Nat)
    {lefts rights : List Entry} (leftListed : left.entries.toList.drop leftStart = lefts)
    (rightListed : right.entries.toList.drop rightStart = rights) :
    visitsAgree left right (List.range' leftStart lefts.length)
      (List.range' rightStart rights.length) = entriesAgreeAll lefts rights := by
  induction lefts generalizing rights leftStart rightStart with
  | nil => cases rights <;> rfl
  | cons leftEntry lefts inductionHypothesis =>
      cases rights with
      | nil => rfl
      | cons rightEntry rights =>
          have leftHead : left.entry? leftStart = some leftEntry := by
            rw [entry?_eq_head?, leftListed, List.head?_cons]
          have rightHead : right.entry? rightStart = some rightEntry := by
            rw [entry?_eq_head?, rightListed, List.head?_cons]
          have others := inductionHypothesis (leftStart + 1) (rightStart + 1)
            (by rw [← List.tail_drop, leftListed, List.tail_cons])
            (by rw [← List.tail_drop, rightListed, List.tail_cons])
          rw [List.length_cons, List.length_cons, List.range'_succ, List.range'_succ, visitsAgree,
            leftHead, rightHead, others, entriesAgreeAll]

/-- Lists of trees of different lengths differ in shape. -/
theorem sameShapes_eq_false {lefts rights : List Node} (lengths : lefts.length ≠ rights.length) :
    Node.sameShapes lefts rights = false := by
  induction lefts generalizing rights with
  | nil =>
      cases rights with
      | nil => exact absurd rfl lengths
      | cons right rights => rfl
  | cons left lefts inductionHypothesis =>
      cases rights with
      | nil => rfl
      | cons right rights =>
          rw [Node.sameShapes, inductionHypothesis (by simpa using lengths), Bool.and_false]

mutual

/-- The entries of two trees, with others behind them, agree if the trees have the same
shape and the others agree. -/
theorem entriesAgreeAll_entries {leftParent rightParent : Option Nat} {leftNumber rightNumber : Nat}
    (lefts rights : List Entry) : ∀ left right : Node,
      entriesAgreeAll (left.entries leftParent leftNumber ++ lefts)
          (right.entries rightParent rightNumber ++ rights) =
        (left.sameShape right && entriesAgreeAll lefts rights)
  | .node leftKind leftValue leftSpan leftChildren,
    .node rightKind rightValue rightSpan rightChildren => by
      rw [Node.entries, Node.entries, List.cons_append, List.cons_append, entriesAgreeAll,
        Node.sameShape]
      by_cases lengths : leftChildren.length = rightChildren.length
      · rw [entriesAgreeAll_entriesAll lefts rights leftChildren rightChildren lengths]
        simp [entriesAgree, lengths, Bool.and_assoc]
      · rw [sameShapes_eq_false lengths]
        simp [entriesAgree, lengths]

/-- The entries of equally many trees, with others behind them, agree if the trees have
the same shapes and the others agree. -/
theorem entriesAgreeAll_entriesAll {leftParent rightParent leftNumber rightNumber : Nat}
    (lefts rights : List Entry) : ∀ leftTrees rightTrees : List Node,
      leftTrees.length = rightTrees.length →
      entriesAgreeAll (Node.entriesAll leftParent leftNumber leftTrees ++ lefts)
          (Node.entriesAll rightParent rightNumber rightTrees ++ rights) =
        (Node.sameShapes leftTrees rightTrees && entriesAgreeAll lefts rights)
  | [], [], _ => rfl
  | left :: leftTrees, right :: rightTrees, lengths => by
      rw [Node.entriesAll, Node.entriesAll, List.append_assoc, List.append_assoc,
        entriesAgreeAll_entries _ _ left right,
        entriesAgreeAll_entriesAll lefts rights leftTrees rightTrees (by simpa using lengths),
        Node.sameShapes, Bool.and_assoc]

end

/-- Arenas have the same shape exactly when their trees have. -/
theorem sameShape_ofNode (left right : Node) :
    (ofNode left).sameShape (ofNode right) = left.sameShape right := by
  have visits := visitsAgree_range' (ofNode left) (ofNode right) 0 0 (List.drop_zero ..)
    (List.drop_zero ..)
  rw [toList_entries_ofNode, toList_entries_ofNode, Node.length_entries, Node.length_entries,
    ← List.range_eq_range', ← List.range_eq_range'] at visits
  have whole : entriesAgreeAll (left.entries none 0 ++ []) (right.entries none 0 ++ []) =
      (left.sameShape right && entriesAgreeAll [] []) := entriesAgreeAll_entries [] [] left right
  rw [List.append_nil, List.append_nil, entriesAgreeAll, Bool.and_true] at whole
  rw [sameShape, walk_ofNode_root, walk_ofNode_root, visits, whole]

end Arena

end BlockData
