import BlockData.Proofs.Lexing.Places
import BlockData.Proofs.Tree.Links

/-!
# Spans of trees

The trees of a part of a text lie one behind the other, and what is below a node lies behind
the start of its span and, in a block, between its brackets (`IsSpread`). So in pre-order the
spans start in ascending order (`IsSpread.ascending`), and neighbouring trees do not overlap
(`IsSpread.apart`). An arena shows the same in its numbers (`Arena.isSpreadOver_ofNode`).
-/

namespace BlockData

/-- A span reaches from an opening bracket to a closing one, with other spans in between. -/
structure Span.Encloses (text : List Char) (delimiter : Delimiter) (span : Span)
    (inner : List Span) : Prop where
  opens : text[span.start]? = some delimiter.openChar
  closes : text[span.stop - 1]? = some delimiter.closeChar
  room : span.start + 1 ≤ span.stop - 1
  inside : ∀ between ∈ inner,
    span.start + 1 ≤ between.start ∧ between.stop ≤ span.stop - 1

/-- Some spans end in front of the starts of other ones. -/
def AreApart (before behind : List Span) : Prop :=
  ∀ earlier ∈ before, ∀ later ∈ behind, earlier.stop ≤ later.start

namespace Node

/-- The spans of a tree in pre-order. -/
def spans (tree : Node) : List Span :=
  tree.subtrees.map span

/-- The spans of some trees in pre-order. -/
def spansAll (trees : List Node) : List Span :=
  (subtreesAll trees).map span

/-- The spans of a single tree. -/
theorem spansAll_singleton (tree : Node) : spansAll [tree] = tree.spans :=
  congrArg (List.map span) (List.append_nil tree.subtrees)

/-- The spans of some trees are those of the first one and those of the others. -/
theorem spansAll_cons (tree : Node) (trees : List Node) :
    spansAll (tree :: trees) = tree.span :: (spansAll tree.children ++ spansAll trees) := by
  obtain ⟨kind, value, span, children⟩ := tree
  exact List.map_append

/-- The spans of a tree are its own one and those below it. -/
theorem spans_eq_cons (tree : Node) : tree.spans = tree.span :: spansAll tree.children := by
  obtain ⟨kind, value, span, children⟩ := tree
  rfl

/-- The spans of one of some trees are among those of all. -/
theorem mem_spansAll {tree : Node} {trees : List Node} {span : Span} (member : tree ∈ trees)
    (isSpan : span ∈ tree.spans) : span ∈ spansAll trees := by
  induction trees with
  | nil => cases member
  | cons first others inductionHypothesis =>
      rw [spansAll_cons, ← List.cons_append, ← spans_eq_cons, List.mem_append]
      rcases List.mem_cons.mp member with rfl | member
      · exact .inl isSpan
      · exact .inr (inductionHypothesis member)

mutual

/-- The entries of a tree have its spans. -/
theorem map_span_entries (parent : Option Nat) (number : Nat) : ∀ tree : Node,
    (tree.entries parent number).map Entry.span = tree.spans
  | .node kind value span children => by
      rw [entries, List.map_cons, map_span_entriesAll number (number + 1) children]
      rfl

/-- The entries of some trees have their spans. -/
theorem map_span_entriesAll (parent number : Nat) : ∀ trees : List Node,
    (entriesAll parent number trees).map Entry.span = spansAll trees
  | [] => rfl
  | tree :: trees => by
      rw [entriesAll, List.map_append, map_span_entries (some parent) number tree,
        map_span_entriesAll parent (number + tree.size) trees, spansAll_cons, spans_eq_cons,
        List.cons_append]

end

end Node

/-- Trees lie in a part of a text, one behind the other. Something below a node may stand
behind the span of the node, but in front of the next tree. -/
inductive IsSpread (text : List Char) : Nat → Nat → List Node → Prop
  | nil {first last : Nat} (ordered : first ≤ last) : IsSpread text first last []
  | cons {first middle last : Nat} {tree : Node} {others : List Node}
      (begins : first ≤ tree.span.start) (ends : tree.span.stop ≤ middle)
      (placed : tree.span.IsPlaced text)
      (encloses : ∀ delimiter, tree.kind = .block delimiter →
        tree.span.Encloses text delimiter (Node.spansAll tree.children))
      (below : IsSpread text tree.span.start middle tree.children)
      (behind : IsSpread text middle last others) : IsSpread text first last (tree :: others)

namespace IsSpread

variable {text : List Char} {first middle last : Nat} {trees : List Node}

/-- Trees lie in front of the end of their part. -/
theorem le (spread : IsSpread text first last trees) : first ≤ last := by
  induction spread with
  | nil ordered => exact ordered
  | cons begins ends placed _ _ _ _ behindHypothesis =>
      have ordered := placed.ordered
      omega

/-- The part that trees lie in may be larger. -/
theorem mono {earlier later : Nat} (spread : IsSpread text first last trees)
    (isEarlier : earlier ≤ first) (isLater : last ≤ later) :
    IsSpread text earlier later trees := by
  induction spread generalizing earlier with
  | nil ordered => exact .nil (by omega)
  | cons begins ends placed encloses below _ _ behindHypothesis =>
      exact .cons (by omega) ends placed encloses below
        (behindHypothesis (Nat.le_refl _) isLater)

/-- Trees of neighbouring parts lie in both. -/
theorem append {others : List Node} (spread : IsSpread text first middle trees)
    (behind : IsSpread text middle last others) : IsSpread text first last (trees ++ others) := by
  induction spread with
  | nil ordered => exact behind.mono ordered (Nat.le_refl _)
  | cons begins ends placed encloses below _ _ behindHypothesis =>
      exact .cons begins ends placed encloses below (behindHypothesis behind)

/-- All spans of trees are placed, and lie in the part that the trees lie in. -/
theorem within (spread : IsSpread text first last trees) :
    ∀ span ∈ Node.spansAll trees, first ≤ span.start ∧ span.IsPlaced text ∧ span.stop ≤ last := by
  induction spread with
  | nil => exact nofun
  | cons begins ends placed _ below behind belowHypothesis behindHypothesis =>
      have belowEnds := below.le
      have behindEnds := behind.le
      rw [Node.spansAll_cons]
      intro span member
      rcases List.mem_cons.mp member with rfl | member
      · exact ⟨begins, placed, by omega⟩
      rcases List.mem_append.mp member with isBelow | isBehind
      · obtain ⟨starts, isPlaced, stops⟩ := belowHypothesis span isBelow
        exact ⟨by omega, isPlaced, by omega⟩
      · obtain ⟨starts, isPlaced, stops⟩ := behindHypothesis span isBehind
        exact ⟨by omega, isPlaced, stops⟩

/-- In pre-order spans start in ascending order. -/
theorem ascending (spread : IsSpread text first last trees) :
    (Node.spansAll trees).Pairwise fun earlier later => earlier.start ≤ later.start := by
  induction spread with
  | nil => exact .nil
  | cons begins ends placed _ below behind belowHypothesis behindHypothesis =>
      have ordered := placed.ordered
      rw [Node.spansAll_cons, List.pairwise_cons, List.pairwise_append]
      refine ⟨fun span member => ?_, belowHypothesis, behindHypothesis, ?_⟩
      · rcases List.mem_append.mp member with isBelow | isBehind
        · exact (below.within span isBelow).1
        · have starts := (behind.within span isBehind).1
          omega
      · intro earlier isBelow later isBehind
        obtain ⟨-, isPlaced, stops⟩ := below.within earlier isBelow
        have inOrder := isPlaced.ordered
        have starts := (behind.within later isBehind).1
        omega

/-- Neighbouring trees do not overlap: all spans of one end before those of the next ones
start. -/
theorem apart (spread : IsSpread text first last trees) :
    trees.Pairwise fun left right => AreApart left.spans right.spans := by
  induction spread with
  | nil => exact .nil
  | @cons _ _ _ tree others begins ends placed _ below behind _ behindHypothesis =>
      refine .cons (fun right isOther earlier isEarlier later isLater => ?_) behindHypothesis
      have starts := (behind.within later (Node.mem_spansAll isOther isLater)).1
      rw [Node.spans_eq_cons] at isEarlier
      rcases List.mem_cons.mp isEarlier with rfl | isBelow
      · omega
      · have stops := (below.within earlier isBelow).2.2
        omega

/-- What is below each node of trees lies in a part of the text, and a block encloses it. -/
theorem exists_below (spread : IsSpread text first last trees) {tree : Node}
    (member : tree ∈ Node.subtreesAll trees) :
    tree.span.IsPlaced text ∧
      (∀ delimiter, tree.kind = .block delimiter →
        tree.span.Encloses text delimiter (Node.spansAll tree.children)) ∧
      ∃ first last, IsSpread text first last tree.children := by
  induction spread with
  | nil => cases member
  | @cons _ _ _ top others begins ends placed encloses below behind belowHypothesis
      behindHypothesis =>
      rw [Node.subtreesAll] at member
      rcases List.mem_append.mp member with member | isBehind
      · obtain ⟨kind, value, span, children⟩ := top
        rcases List.mem_cons.mp member with rfl | isBelow
        · exact ⟨placed, encloses, _, _, below⟩
        · exact belowHypothesis isBelow
      · exact behindHypothesis isBehind

end IsSpread

namespace Arena

/-- The spans of the nodes that a walk visits, in their order. -/
def spans (arena : Arena) (number : Nat) : List Span :=
  (arena.visited number).map Entry.span

variable {arena : Arena} {tree : Node} {parent : Option Nat} {number : Nat}

/-- A walk from a tree that is held visits its spans. -/
theorem Holds.spans_eq (held : arena.Holds parent number tree) :
    arena.spans number = tree.spans := by
  rw [spans, held.visited_eq, Node.map_span_entries]

/-- The numbers of some trees that are held are those of the trees. -/
theorem HoldsAll.exists_holds_of_mem_numbers {above child : Nat} {trees : List Node}
    (held : arena.HoldsAll above number trees) (member : child ∈ Node.numbers number trees) :
    ∃ tree ∈ trees, ∃ parent, arena.Holds parent child tree := by
  induction trees generalizing number with
  | nil => cases member
  | cons tree trees inductionHypothesis =>
      rcases List.mem_cons.mp member with rfl | member
      · exact ⟨tree, List.mem_cons_self, _, held.head⟩
      · obtain ⟨other, isOther, found⟩ := inductionHypothesis held.tail member
        exact ⟨other, List.mem_cons_of_mem _ isOther, found⟩

/-- Trees that are held below a node are apart if their spans are. -/
theorem HoldsAll.apart {above : Nat} {trees : List Node}
    (held : arena.HoldsAll above number trees)
    (apart : trees.Pairwise fun left right => AreApart left.spans right.spans) :
    (Node.numbers number trees).Pairwise fun left right =>
      AreApart (arena.spans left) (arena.spans right) := by
  induction trees generalizing number with
  | nil => exact .nil
  | cons tree trees inductionHypothesis =>
      obtain ⟨first, others⟩ := List.pairwise_cons.mp apart
      refine .cons (fun child member => ?_) (inductionHypothesis held.tail others)
      obtain ⟨other, isOther, _, isHeld⟩ := held.tail.exists_holds_of_mem_numbers member
      rw [held.head.spans_eq, isHeld.spans_eq]
      exact first other isOther

/-- The nodes of an arena lie in a text in the order of the arena, nested as they are in it. -/
structure IsSpreadOver (arena : Arena) (text : List Char) : Prop where
  ascending : (arena.spans root).Pairwise fun earlier later => earlier.start ≤ later.start
  placed : ∀ number entry, arena.entry? number = some entry → entry.span.IsPlaced text
  /-- A block encloses all nodes below it. -/
  encloses : ∀ number entry delimiter, arena.entry? number = some entry →
    entry.kind = .block delimiter → entry.span.Encloses text delimiter (arena.spans number).tail
  /-- A child of a node and all nodes below it end in front of the next children and all nodes
  below them. -/
  apart : ∀ number, (arena.children number).Pairwise fun left right =>
    AreApart (arena.spans left) (arena.spans right)

/-- A tree that lies in a part of a text is shown so by its arena. -/
theorem isSpreadOver_ofNode {text : List Char} {first last : Nat}
    (spread : IsSpread text first last [tree]) : (ofNode tree).IsSpreadOver text := by
  have listed : ∀ {number node}, tree.subtrees[number]? = some node →
      node ∈ Node.subtreesAll [tree] := fun isNode =>
    List.mem_append_left _ (List.mem_of_getElem? isNode)
  constructor
  case ascending =>
    rw [(holds_ofNode tree).spans_eq]
    have ascending := spread.ascending
    rwa [Node.spansAll_singleton] at ascending
  case placed =>
    intro number entry found
    obtain ⟨parent, node, isNode, -, -, sameSpan⟩ := exists_holds_of_entry? found
    rw [sameSpan]
    exact (spread.exists_below (listed isNode)).1
  case encloses =>
    intro number entry delimiter found isBlock
    obtain ⟨parent, node, isNode, held, sameKind, sameSpan⟩ := exists_holds_of_entry? found
    rw [sameSpan, held.spans_eq, Node.spans_eq_cons]
    exact (spread.exists_below (listed isNode)).2.1 delimiter (sameKind.symm.trans isBlock)
  case apart =>
    intro number
    cases found : entry? (ofNode tree) number with
    | none =>
        rw [children, found]
        exact .nil
    | some entry =>
        obtain ⟨parent, node, isNode, held, -, -⟩ := exists_holds_of_entry? found
        obtain ⟨-, -, _, _, below⟩ := spread.exists_below (listed isNode)
        rw [held.children_eq]
        exact held.below.apart below.apart

end Arena

end BlockData
