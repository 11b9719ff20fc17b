import BlockData.Proofs.Formatting.RoundTrip
import BlockData.Proofs.Number.Bits
import BlockData.Proofs.Tree.Equality

/-!
# Trees of the same text

Canonical text says everything about a tree but its places, so trees of the same text have
the same shape. The converse fails for one reason: shapes compare floats as numbers, and the
two zeros are one number with two texts. Trees of the same shape differ at most in the signs
of their zeros (`Node.unplaced_eq_of_sameShape`), so the signs in the order of the text and the
shape decide the text, and the text without the signs decides the shape (`same_text_iff`).
-/

namespace BlockData

namespace Value

/-- The sign of a value that is zero as a float. -/
def zeroSign? : Value → Option Bool
  | .float number => if number.magnitude = 0 then some number.isNegative else none
  | _ => none

/-- The value, with the sign taken off if it is zero as a float. -/
def unsignedZero : Value → Value
  | .float number => .float (if number.magnitude = 0 then ⟨0⟩ else number)
  | value => value

end Value

namespace Node

mutual

/-- The signs of the zeros of a tree, in the order of the text. -/
def zeroSigns : Node → List Bool
  | .node _ value _ children => (value.bind Value.zeroSign?).toList ++ zeroSignsAll children

/-- The signs of the zeros of some trees, in the order of the text. -/
def zeroSignsAll : List Node → List Bool
  | [] => []
  | tree :: trees => tree.zeroSigns ++ zeroSignsAll trees

end

mutual

/-- The tree with the signs of all zeros taken off. -/
def unsignedZeros : Node → Node
  | .node kind value span children =>
      .node kind (value.map Value.unsignedZero) span (unsignedZerosAll children)

/-- The trees with the signs of all zeros taken off. -/
def unsignedZerosAll : List Node → List Node
  | [] => []
  | tree :: trees => tree.unsignedZeros :: unsignedZerosAll trees

end

end Node

namespace Binary64

/-- Zero without its sign equals the same numbers. -/
theorem sameNumber_unsignedZero (number other : Binary64) :
    (if number.magnitude = 0 then ⟨0⟩ else number).sameNumber other =
      number.sameNumber other := by
  split
  · rename_i isZero
    rw [sameNumber_of_zero isZero, sameNumber_of_zero rfl]
  · rfl

end Binary64

namespace Value

/-- Equal values are both zero as floats, or neither of them is. -/
theorem length_zeroSign?_of_sameOptional {left right : Option Value}
    (same : sameOptional left right = true) :
    (left.bind zeroSign?).toList.length = (right.bind zeroSign?).toList.length := by
  rcases left with _ | left <;> rcases right with _ | right
  · rfl
  · cases same
  · cases same
  · rcases eq_or_zeros_of_same same with rfl | ⟨left, right, rfl, rfl, leftZero, rightZero⟩
    · rfl
    · simp [zeroSign?, leftZero, rightZero]

/-- Equal values are the same if they agree in the sign of zero. -/
theorem eq_of_sameOptional {left right : Option Value} (same : sameOptional left right = true)
    (signs : (left.bind zeroSign?).toList = (right.bind zeroSign?).toList) : left = right := by
  rcases left with _ | left <;> rcases right with _ | right
  · rfl
  · cases same
  · cases same
  · rcases eq_or_zeros_of_same same with rfl | ⟨left, right, rfl, rfl, leftZero, rightZero⟩
    · rfl
    · have sameSign : left.isNegative = right.isNegative := by
        simpa [zeroSign?, leftZero, rightZero] using signs
      rw [← left.ofMagnitude_magnitude, ← right.ofMagnitude_magnitude, leftZero, rightZero,
        sameSign]

/-- Taking off the sign of zero gives an equal value. -/
theorem sameOptional_unsignedZero (left right : Option Value) :
    sameOptional (left.map unsignedZero) right = sameOptional left right := by
  rcases left with _ | left
  · rfl
  · cases left with
    | float number =>
        rcases right with _ | right
        · rfl
        · cases right with
          | float other => exact Binary64.sameNumber_unsignedZero number other
          | _ => rfl
    | _ => rfl

/-- A zero without its sign is positive. -/
theorem zeroSign?_unsignedZero (value : Value) :
    value.unsignedZero.zeroSign? = value.zeroSign?.map fun _ => false := by
  cases value with
  | float number =>
      by_cases isZero : number.magnitude = 0
      · simp only [unsignedZero, zeroSign?, if_pos isZero]
        rfl
      · simp only [unsignedZero, zeroSign?, if_neg isZero, Option.map_none]
  | _ => rfl

end Value

namespace Node

mutual

/-- Signs of zeros do not depend on places. -/
theorem zeroSigns_unplaced : ∀ tree : Node, tree.unplaced.zeroSigns = tree.zeroSigns
  | .node _ _ _ children => by
      rw [unplaced, zeroSigns, zeroSigns, zeroSignsAll_unplacedAll children]

/-- Signs of zeros do not depend on places. -/
theorem zeroSignsAll_unplacedAll : ∀ trees : List Node,
    zeroSignsAll (unplacedAll trees) = zeroSignsAll trees
  | [] => rfl
  | tree :: trees => by
      rw [unplacedAll, zeroSignsAll, zeroSignsAll, zeroSigns_unplaced tree,
        zeroSignsAll_unplacedAll trees]

end

mutual

/-- Trees of the same shape have as many zeros. -/
theorem length_zeroSigns_of_sameShape : ∀ left right : Node, left.sameShape right = true →
    left.zeroSigns.length = right.zeroSigns.length
  | .node _ leftValue _ leftChildren, .node _ rightValue _ rightChildren, same => by
      simp only [sameShape, Bool.and_eq_true] at same
      obtain ⟨⟨-, sameValue⟩, sameChildren⟩ := same
      rw [zeroSigns, zeroSigns, List.length_append, List.length_append,
        Value.length_zeroSign?_of_sameOptional sameValue,
        length_zeroSignsAll_of_sameShapes leftChildren rightChildren sameChildren]

/-- Lists of trees of the same shapes have as many zeros. -/
theorem length_zeroSignsAll_of_sameShapes : ∀ lefts rights : List Node,
    sameShapes lefts rights = true → (zeroSignsAll lefts).length = (zeroSignsAll rights).length
  | [], [], _ => rfl
  | left :: lefts, right :: rights, same => by
      simp only [sameShapes, Bool.and_eq_true] at same
      rw [zeroSignsAll, zeroSignsAll, List.length_append, List.length_append,
        length_zeroSigns_of_sameShape left right same.1,
        length_zeroSignsAll_of_sameShapes lefts rights same.2]

end

mutual

/-- Trees of the same shape with the same signs of zeros differ in places only. -/
theorem unplaced_eq_of_sameShape : ∀ left right : Node, left.sameShape right = true →
    left.zeroSigns = right.zeroSigns → left.unplaced = right.unplaced
  | .node leftKind leftValue _ leftChildren, .node rightKind rightValue _ rightChildren,
    same, signs => by
      simp only [sameShape, Bool.and_eq_true, beq_iff_eq] at same
      obtain ⟨⟨rfl, sameValue⟩, sameChildren⟩ := same
      rw [zeroSigns, zeroSigns] at signs
      obtain ⟨valueSign, childSigns⟩ :=
        List.append_inj signs (Value.length_zeroSign?_of_sameOptional sameValue)
      rw [unplaced, unplaced, Value.eq_of_sameOptional sameValue valueSign,
        unplacedAll_eq_of_sameShapes leftChildren rightChildren sameChildren childSigns]

/-- Lists of trees of the same shapes with the same signs of zeros differ in places only. -/
theorem unplacedAll_eq_of_sameShapes : ∀ lefts rights : List Node,
    sameShapes lefts rights = true → zeroSignsAll lefts = zeroSignsAll rights →
      unplacedAll lefts = unplacedAll rights
  | [], [], _, _ => rfl
  | left :: lefts, right :: rights, same, signs => by
      simp only [sameShapes, Bool.and_eq_true] at same
      rw [zeroSignsAll, zeroSignsAll] at signs
      obtain ⟨firstSigns, otherSigns⟩ :=
        List.append_inj signs (length_zeroSigns_of_sameShape left right same.1)
      rw [unplacedAll, unplacedAll, unplaced_eq_of_sameShape left right same.1 firstSigns,
        unplacedAll_eq_of_sameShapes lefts rights same.2 otherSigns]

end

mutual

/-- Taking off the signs of zeros keeps the shape. -/
theorem sameShape_unsignedZeros : ∀ left right : Node,
    left.unsignedZeros.sameShape right = left.sameShape right
  | .node _ leftValue _ leftChildren, .node _ rightValue _ rightChildren => by
      rw [unsignedZeros, sameShape, sameShape, Value.sameOptional_unsignedZero,
        sameShapes_unsignedZerosAll leftChildren rightChildren]

/-- Taking off the signs of zeros keeps the shapes of lists of trees. -/
theorem sameShapes_unsignedZerosAll : ∀ lefts rights : List Node,
    sameShapes (unsignedZerosAll lefts) rights = sameShapes lefts rights
  | [], _ => rfl
  | _ :: _, [] => rfl
  | left :: lefts, right :: rights => by
      rw [unsignedZerosAll, sameShapes, sameShapes, sameShape_unsignedZeros left right,
        sameShapes_unsignedZerosAll lefts rights]

end

mutual

/-- A tree without signs of zeros has positive zeros only. -/
theorem zeroSigns_unsignedZeros : ∀ tree : Node,
    tree.unsignedZeros.zeroSigns = List.replicate tree.zeroSigns.length false
  | .node _ value _ children => by
      have own : ((value.map Value.unsignedZero).bind Value.zeroSign?).toList =
          List.replicate (value.bind Value.zeroSign?).toList.length false := by
        cases value with
        | none => rfl
        | some value =>
            rw [Option.map_some, Option.bind_some, Option.bind_some, Value.zeroSign?_unsignedZero]
            cases value.zeroSign? <;> rfl
      rw [unsignedZeros, zeroSigns, zeroSigns, zeroSignsAll_unsignedZerosAll children, own,
        List.length_append, List.replicate_add]

/-- Trees without signs of zeros have positive zeros only. -/
theorem zeroSignsAll_unsignedZerosAll : ∀ trees : List Node,
    zeroSignsAll (unsignedZerosAll trees) = List.replicate (zeroSignsAll trees).length false
  | [] => rfl
  | tree :: trees => by
      rw [unsignedZerosAll, zeroSignsAll, zeroSignsAll, zeroSigns_unsignedZeros tree,
        zeroSignsAll_unsignedZerosAll trees, List.length_append, List.replicate_add]

end

/-- A well-formed tree stays well formed without the signs of its zeros. -/
theorem isWellFormed_unsignedZeros {tree : Node} (wellFormed : tree.isWellFormed = true) :
    tree.unsignedZeros.isWellFormed = true := by
  have same : tree.sameShape tree = true := sameShape_of_unplaced wellFormed rfl
  rw [← sameShape_unsignedZeros] at same
  exact isWellFormed_of_sameShape same wellFormed

/-- Canonical text determines a well-formed tree apart from places. -/
theorem unplaced_eq_of_canonical {left right : Node} (leftWellFormed : left.isWellFormed = true)
    (rightWellFormed : right.isWellFormed = true) {indent : Nat}
    (sameText : left.canonical indent = right.canonical indent) :
    left.unplaced = right.unplaced := by
  obtain ⟨leftText, leftTree, isLeftText, leftParsed, leftSame⟩ :=
    exists_parse_canonical leftWellFormed indent
  obtain ⟨rightText, rightTree, isRightText, rightParsed, rightSame⟩ :=
    exists_parse_canonical rightWellFormed indent
  obtain rfl : leftText = rightText := by
    rw [isLeftText, isRightText] at sameText
    exact Except.ok.inj sameText
  obtain rfl : leftTree = rightTree := by
    rw [leftParsed] at rightParsed
    exact Except.ok.inj rightParsed
  rw [← leftSame, rightSame]

/-- Well-formed trees have the same canonical text if and only if they have the same shape
and the same signs of zeros. -/
theorem canonical_eq_iff {left right : Node} (leftWellFormed : left.isWellFormed = true)
    (rightWellFormed : right.isWellFormed = true) (indent : Nat) :
    left.canonical indent = right.canonical indent ↔
      left.sameShape right = true ∧ left.zeroSigns = right.zeroSigns := by
  constructor
  · intro sameText
    have same := unplaced_eq_of_canonical leftWellFormed rightWellFormed sameText
    refine ⟨sameShape_of_unplaced leftWellFormed same, ?_⟩
    rw [← zeroSigns_unplaced, same, zeroSigns_unplaced]
  · rintro ⟨sameShape, signs⟩
    exact canonical_congr (unplaced_eq_of_sameShape left right sameShape signs) indent

/-- Well-formed trees have the same shape if and only if they have the same canonical text
without the signs of their zeros. -/
theorem sameShape_iff_canonical {left right : Node} (leftWellFormed : left.isWellFormed = true)
    (rightWellFormed : right.isWellFormed = true) (indent : Nat) :
    left.sameShape right = true ↔
      left.unsignedZeros.canonical indent = right.unsignedZeros.canonical indent := by
  have shapes : left.unsignedZeros.sameShape right.unsignedZeros = left.sameShape right := by
    rw [sameShape_unsignedZeros, sameShape_comm, sameShape_unsignedZeros, sameShape_comm]
  rw [canonical_eq_iff (isWellFormed_unsignedZeros leftWellFormed)
    (isWellFormed_unsignedZeros rightWellFormed), shapes]
  refine ⟨fun same => ⟨same, ?_⟩, And.left⟩
  rw [zeroSigns_unsignedZeros, zeroSigns_unsignedZeros,
    length_zeroSigns_of_sameShape left right same]

end Node

/-- Canonical text and shape decide each other up to the signs of zeros. The trees of two texts
have canonical texts, and these are the same if and only if the trees have the same shape and,
in the order of the text, the same signs of zeros. The canonical texts without the signs of
zeros are the same if and only if the trees have the same shape. -/
theorem same_text_iff {first second : String} {left right : Node}
    (firstParsed : parse first = .ok left) (secondParsed : parse second = .ok right)
    (indent : Nat) :
    (∃ leftText rightText, left.canonical indent = .ok leftText ∧
      right.canonical indent = .ok rightText ∧
      (leftText = rightText ↔ (Arena.ofNode left).sameShape (Arena.ofNode right) = true ∧
        left.zeroSigns = right.zeroSigns)) ∧
    ∃ leftText rightText, left.unsignedZeros.canonical indent = .ok leftText ∧
      right.unsignedZeros.canonical indent = .ok rightText ∧
      (leftText = rightText ↔ (Arena.ofNode left).sameShape (Arena.ofNode right) = true) := by
  have leftWellFormed := isWellFormed_of_parse firstParsed
  have rightWellFormed := isWellFormed_of_parse secondParsed
  rw [Arena.sameShape_ofNode]
  constructor
  · obtain ⟨leftText, _, isLeftText, _⟩ := Node.exists_parse_canonical leftWellFormed indent
    obtain ⟨rightText, _, isRightText, _⟩ := Node.exists_parse_canonical rightWellFormed indent
    refine ⟨leftText, rightText, isLeftText, isRightText, ?_⟩
    rw [← Node.canonical_eq_iff leftWellFormed rightWellFormed indent, isLeftText, isRightText,
      Except.ok.injEq]
  · obtain ⟨leftText, _, isLeftText, _⟩ :=
      Node.exists_parse_canonical (Node.isWellFormed_unsignedZeros leftWellFormed) indent
    obtain ⟨rightText, _, isRightText, _⟩ :=
      Node.exists_parse_canonical (Node.isWellFormed_unsignedZeros rightWellFormed) indent
    refine ⟨leftText, rightText, isLeftText, isRightText, ?_⟩
    rw [Node.sameShape_iff_canonical leftWellFormed rightWellFormed indent, isLeftText,
      isRightText, Except.ok.injEq]

/-- The tree of a text that is a float and a line feed. -/
def floatTree (number : Binary64) (length : Nat) : Node :=
  .node .root none ⟨0, length, 1, 1⟩
    [.node .program none ⟨0, length, 1, 1⟩
      [.node .expression none ⟨0, length, 1, 1⟩
        [.node (.leaf (.value .float)) (some (.float number)) ⟨0, length, 1, 1⟩ [],
          .node .paramlist none ⟨length, length + 1, 1, length + 1⟩ []]]]

/-- Zeros of both signs have one shape and two texts, so one shape does not mean one text. -/
theorem sameShape_not_iff_same_text_of_zeros : ∃ left right, parse "0.0\n" = .ok left ∧
    parse "-0.0\n" = .ok right ∧
    ¬ ((Arena.ofNode left).sameShape (Arena.ofNode right) = true ↔
      left.canonical 2 = right.canonical 2) := by
  refine ⟨floatTree ⟨0⟩ 3, floatTree ⟨0x8000000000000000⟩ 4, by cbv, by cbv, fun sameText => ?_⟩
  have sameShape : (floatTree ⟨0⟩ 3).sameShape (floatTree ⟨0x8000000000000000⟩ 4) = true := by
    decide
  have leftText : (floatTree ⟨0⟩ 3).canonical 2 = .ok "0.0\n" := by cbv
  have rightText : (floatTree ⟨0x8000000000000000⟩ 4).canonical 2 = .ok "-0.0\n" := by cbv
  rw [Arena.sameShape_ofNode, leftText, rightText, Except.ok.injEq] at sameText
  exact absurd (sameText.mp sameShape) (by decide)

/-- The texts of zeros of both signs differ by these signs only. -/
theorem same_text_iff_of_zeros :
    let left := floatTree ⟨0⟩ 3
    let right := floatTree ⟨0x8000000000000000⟩ 4
    parse "0.0\n" = .ok left ∧ parse "-0.0\n" = .ok right ∧
    (∃ leftText rightText, left.canonical 4 = .ok leftText ∧
      right.canonical 4 = .ok rightText ∧
      (leftText = rightText ↔ (Arena.ofNode left).sameShape (Arena.ofNode right) = true ∧
        left.zeroSigns = right.zeroSigns)) ∧
    ∃ leftText rightText, left.unsignedZeros.canonical 4 = .ok leftText ∧
      right.unsignedZeros.canonical 4 = .ok rightText ∧
      (leftText = rightText ↔ (Arena.ofNode left).sameShape (Arena.ofNode right) = true) := by
  intro left right
  have firstParsed : parse "0.0\n" = .ok left := by cbv
  have secondParsed : parse "-0.0\n" = .ok right := by cbv
  exact ⟨firstParsed, secondParsed, same_text_iff firstParsed secondParsed 4⟩

end BlockData
