import BlockData.Proofs.Tree.Subtrees
import Mathlib.Data.List.Nodup

/-!
# Links of arenas

The numbers by which the nodes of an arena refer to each other. Every node but the topmost
one is listed once, below the node that it gives as its parent, and the children of a node
are listed in ascending order and in the order of the tree. So an arena is a faithful table
of its tree (`ofNode_isTableOf`), and a walk visits the numbers of a subtree one after the
other.
-/

namespace BlockData

namespace Node

/-- No tree is empty. -/
theorem size_pos (tree : Node) : 0 < tree.size := by
  cases tree
  rw [size]
  exact Nat.succ_pos _

/-- Neighbouring trees are numbered from the number of the first one on. -/
theorem le_of_mem_numbers {number child : Nat} {trees : List Node}
    (member : child ∈ numbers number trees) : number ≤ child := by
  induction trees generalizing number with
  | nil => cases member
  | cons tree trees inductionHypothesis =>
      rcases List.mem_cons.mp member with rfl | member
      · exact Nat.le_refl _
      · exact Nat.le_of_add_right_le (inductionHypothesis member)

/-- Neighbouring trees are numbered in ascending order. -/
theorem numbers_pairwise_lt (number : Nat) (trees : List Node) :
    (numbers number trees).Pairwise (· < ·) := by
  induction trees generalizing number with
  | nil => exact .nil
  | cons tree trees inductionHypothesis =>
      refine .cons (fun child member => ?_) (inductionHypothesis (number + tree.size))
      have later := le_of_mem_numbers member
      have positive := tree.size_pos
      omega

/-- The first of the subtrees of a tree is the tree itself. -/
theorem head?_subtrees (tree : Node) : tree.subtrees.head? = some tree := by
  cases tree
  rfl

mutual

/-- The subtrees of a subtree stand one after the other behind its place. -/
theorem subtrees_isPrefix_drop : ∀ (tree : Node) {place : Nat} {subtree : Node},
    tree.subtrees[place]? = some subtree → subtree.subtrees <+: tree.subtrees.drop place
  | .node kind value span children, 0, subtree, found => by
      obtain rfl := Option.some.inj found
      exact List.prefix_rfl
  | .node kind value span children, place + 1, subtree, found =>
      subtrees_isPrefix_drop_all children found

/-- The subtrees of a subtree of some trees stand one after the other behind its place. -/
theorem subtrees_isPrefix_drop_all : ∀ (trees : List Node) {place : Nat} {subtree : Node},
    (subtreesAll trees)[place]? = some subtree →
      subtree.subtrees <+: (subtreesAll trees).drop place
  | [], _, _, found => by cases found
  | tree :: trees, place, subtree, found => by
      rw [subtreesAll] at found ⊢
      by_cases within : place < tree.subtrees.length
      · rw [List.getElem?_append_left within] at found
        rw [List.drop_append_of_le_length (Nat.le_of_lt within)]
        exact (subtrees_isPrefix_drop tree found).trans (List.prefix_append _ _)
      · rw [Nat.not_lt] at within
        rw [List.getElem?_append_right within] at found
        rw [List.drop_append, List.drop_eq_nil_of_le within, List.nil_append]
        exact subtrees_isPrefix_drop_all trees found

end

/-- The subtrees below a subtree stand one after the other behind its topmost node. -/
theorem subtreesAll_isPrefix_drop {tree subtree : Node} {place : Nat}
    (found : tree.subtrees[place]? = some subtree) :
    subtreesAll subtree.children <+: tree.subtrees.drop (place + 1) := by
  obtain ⟨after, listed⟩ := subtrees_isPrefix_drop tree found
  obtain ⟨kind, value, span, children⟩ := subtree
  refine ⟨after, ?_⟩
  rw [← List.tail_drop, ← listed]
  rfl

/-- The trees whose subtrees stand one after the other in a list are found at their numbers. -/
theorem map_getElem?_numbers {listed : List Node} {number : Nat} {trees : List Node}
    (stands : subtreesAll trees <+: listed.drop number) :
    (numbers number trees).map (fun child => listed[child]?) = trees.map some := by
  induction trees generalizing number with
  | nil => rfl
  | cons tree trees inductionHypothesis =>
      obtain ⟨after, isListed⟩ := stands
      rw [subtreesAll, List.append_assoc] at isListed
      have first : listed[number]? = some tree := by
        rw [← List.head?_drop, ← isListed, List.head?_append, head?_subtrees]
        rfl
      have others : subtreesAll trees <+: listed.drop (number + tree.size) := by
        refine ⟨after, ?_⟩
        rw [← List.drop_drop, ← isListed, ← length_subtrees, List.drop_left]
      rw [numbers, List.map_cons, List.map_cons, first, inductionHypothesis others]

end Node

namespace Arena

variable {arena : Arena} {tree : Node} {parent : Option Nat} {number : Nat}

/-- The parent of a tree that is held. -/
theorem Holds.parent?_eq (held : arena.Holds parent number tree) :
    arena.parent? number = parent := by
  obtain ⟨kind, value, span, children⟩ := tree
  rw [parent?, held.entry?_eq]
  rfl

/-- An arena has room for every tree that it holds. -/
theorem Holds.size_le (held : arena.Holds parent number tree) :
    number + tree.size ≤ arena.size := by
  have length := held.length_le
  have positive := tree.size_pos
  rw [Node.length_entries, List.length_drop, Array.length_toList] at length
  rw [size]
  omega

/-- A walk from a tree that is held visits its numbers, however many more visits are allowed. -/
theorem Holds.walkStack_eq (held : arena.Holds parent number tree) {count : Nat}
    (enough : tree.size ≤ count) :
    arena.walkStack count [number] = List.range' number tree.size := by
  obtain ⟨after, listed⟩ := held
  obtain ⟨more, rfl⟩ := Nat.exists_eq_add_of_le enough
  rw [walkStack_subtree arena more [] tree parent number after listed.symm]
  cases more <;> exact List.append_nil _

/-- The places of a list from a number on hold what stands there. -/
theorem map_getElem?_range' {α : Type} {list front : List α} {number : Nat}
    (stands : front <+: list.drop number) :
    (List.range' number front.length).map (fun place => list[place]?) = front.map some := by
  induction front generalizing number with
  | nil => rfl
  | cons first others inductionHypothesis =>
      obtain ⟨after, listed⟩ := stands
      have isFirst : list[number]? = some first := by
        rw [← List.head?_drop, ← listed]
        rfl
      have behind : others <+: list.drop (number + 1) :=
        ⟨after, by rw [← List.tail_drop, ← listed]; rfl⟩
      rw [List.length_cons, List.range'_succ, List.map_cons, isFirst, inductionHypothesis behind,
        List.map_cons]

/-- A walk from a tree that is held finds its entries. -/
theorem Holds.map_entry?_walk (held : arena.Holds parent number tree) :
    (arena.walk number).map arena.entry? = (tree.entries parent number).map some := by
  have within := held.size_le
  have found := map_getElem?_range' held
  rw [Node.length_entries] at found
  rw [walk, held.walkStack_eq (by omega), ← found]
  exact List.map_congr_left fun place _ => (Array.getElem?_toList ..).symm

/-- A walk from a tree that is held visits its entries. -/
theorem Holds.visited_eq (held : arena.Holds parent number tree) :
    arena.visited number = tree.entries parent number := by
  have looked : (arena.walk number).filterMap arena.entry? =
      ((arena.walk number).map arena.entry?).filterMap id := by
    rw [List.filterMap_map]
    rfl
  rw [visited, looked, held.map_entry?_walk, List.filterMap_map]
  exact List.filterMap_some

/-- A node is listed below its parent. -/
def IsListed (arena : Arena) (number : Nat) : Prop :=
  ∃ above, arena.parent? number = some above ∧ number ∈ arena.children above

mutual

/-- All nodes of a tree that is held, but its topmost one, are listed below their parents. -/
theorem Holds.isListed {arena : Arena} : ∀ (tree : Node) {parent : Option Nat} {number : Nat},
    arena.Holds parent number tree → ∀ {place : Nat}, 0 < place → place < tree.size →
      arena.IsListed (number + place)
  | .node kind value span children, parent, number, held, place + 1, _, within => by
      have below : ∀ child ∈ Node.numbers (number + 1) children,
          child ∈ arena.children number := fun child member => by
        rwa [held.children_eq]
      have listed := HoldsAll.isListed children held.below below (Nat.lt_of_succ_lt_succ within)
      rwa [Nat.add_assoc, Nat.add_comm 1] at listed

/-- All nodes of trees that are held below a node are listed below their parents. -/
theorem HoldsAll.isListed {arena : Arena} : ∀ (trees : List Node) {above number : Nat},
    arena.HoldsAll above number trees →
      (∀ child ∈ Node.numbers number trees, child ∈ arena.children above) →
        ∀ {place : Nat}, place < Node.sizeAll trees → arena.IsListed (number + place)
  | tree :: trees, above, number, held, below, place, within => by
      rcases Nat.eq_zero_or_pos place with rfl | positive
      · exact ⟨above, held.head.parent?_eq, below number List.mem_cons_self⟩
      · by_cases inFirst : place < tree.size
        · exact Holds.isListed tree held.head positive inFirst
        · rw [Node.sizeAll] at within
          have listed := HoldsAll.isListed trees held.tail
            (fun child member => below child (List.mem_cons_of_mem _ member))
            (show place - tree.size < Node.sizeAll trees by omega)
          rwa [show number + tree.size + (place - tree.size) = number + place by omega] at listed

end

/-- The parent of trees that are held below a node. -/
theorem HoldsAll.parent?_of_mem_numbers {above child : Nat} {trees : List Node}
    (held : arena.HoldsAll above number trees) (member : child ∈ Node.numbers number trees) :
    arena.parent? child = some above := by
  induction trees generalizing number with
  | nil => cases member
  | cons tree trees inductionHypothesis =>
      rcases List.mem_cons.mp member with rfl | member
      · exact held.head.parent?_eq
      · exact inductionHypothesis held.tail member

/-- The subtree at a number is held there. -/
theorem exists_holds_of_getElem? {node : Node} (found : tree.subtrees[number]? = some node) :
    ∃ parent, (ofNode tree).Holds parent number node := by
  obtain ⟨parent, held⟩ := (holds_ofNode tree).exists_of_getElem? tree found
  rw [root, Nat.zero_add] at held
  exact ⟨parent, held⟩

/-- There is a subtree at every number of a node. -/
theorem exists_subtree (inside : number < tree.size) :
    ∃ node, tree.subtrees[number]? = some node :=
  ⟨_, List.getElem?_eq_getElem (by rwa [Node.length_subtrees])⟩

/-- There is no entry at other numbers. -/
theorem entry?_eq_none (outside : ¬ number < tree.size) : entry? (ofNode tree) number = none := by
  rw [← size_ofNode] at outside
  exact Array.getElem?_eq_none (Nat.not_lt.mp outside)

/-- Only a node that is the topmost one of a subtree has children. -/
theorem children_eq_nil_or_exists_holds (tree : Node) (number : Nat) :
    (ofNode tree).children number = [] ∨ ∃ parent node, (ofNode tree).Holds parent number node := by
  by_cases inside : number < tree.size
  · obtain ⟨node, found⟩ := exists_subtree inside
    obtain ⟨parent, held⟩ := exists_holds_of_getElem? found
    exact .inr ⟨parent, node, held⟩
  · left
    rw [children, entry?_eq_none inside]
    rfl

/-- The children of a node have it as their parent. -/
theorem parent?_of_mem_children {child : Nat} (member : child ∈ (ofNode tree).children number) :
    (ofNode tree).parent? child = some number := by
  rcases children_eq_nil_or_exists_holds tree number with none | ⟨parent, node, held⟩
  · rw [none] at member
    cases member
  · rw [held.children_eq] at member
    exact held.below.parent?_of_mem_numbers member

/-- The children of a node are listed in ascending order. -/
theorem children_pairwise_lt (tree : Node) (number : Nat) :
    ((ofNode tree).children number).Pairwise (· < ·) := by
  rcases children_eq_nil_or_exists_holds tree number with none | ⟨parent, node, held⟩
  · rw [none]
    exact .nil
  · rw [held.children_eq]
    exact Node.numbers_pairwise_lt _ _

/-- A node with a parent is a node of the tree, but not the topmost one. -/
theorem below_of_parent?_eq_some {above : Nat}
    (isBelow : (ofNode tree).parent? number = some above) : number < tree.size ∧ number ≠ root := by
  obtain ⟨entry, isEntry, -⟩ := Option.bind_eq_some_iff.mp isBelow
  obtain ⟨inside, -⟩ := Array.getElem?_eq_some_iff.mp isEntry
  refine ⟨?_, ?_⟩
  · rw [← size_ofNode]
    exact inside
  · rintro rfl
    rw [(holds_ofNode tree).parent?_eq] at isBelow
    cases isBelow

/-- Every node but the topmost one is listed below its parent. -/
theorem isListed_of_ne_root (inside : number < tree.size) (other : number ≠ root) :
    (ofNode tree).IsListed number := by
  have listed := Holds.isListed tree (holds_ofNode tree) (Nat.pos_of_ne_zero other) inside
  rwa [root, Nat.zero_add] at listed

/-- The children of a node are the nodes that have it as their parent. -/
theorem mem_children_iff {child : Nat} :
    child ∈ (ofNode tree).children number ↔ (ofNode tree).parent? child = some number := by
  constructor
  · exact parent?_of_mem_children
  · intro isBelow
    obtain ⟨inside, other⟩ := below_of_parent?_eq_some isBelow
    obtain ⟨above, isAbove, member⟩ := isListed_of_ne_root inside other
    obtain rfl := Option.some.inj (isAbove.symm.trans isBelow)
    exact member

/-- An arena is the table of a tree. Its entries are the nodes of the tree in pre-order, and
their links are those of the tree. -/
structure IsTableOf (arena : Arena) (tree : Node) : Prop where
  size : arena.size = tree.size
  nodes : ∀ number,
    ( arena.entry? number).map
        (fun entry => (entry.kind, entry.value, entry.span, entry.children.length)) =
      tree.subtrees[number]?.map
        fun node => (node.kind, node.value, node.span, node.children.length)
  /-- The children of a node are those that it has in the tree, in their order. -/
  children : ∀ number node, tree.subtrees[number]? = some node →
    (arena.children number).map (fun child => tree.subtrees[child]?) = node.children.map some
  ascending : ∀ number, (arena.children number).Pairwise (· < ·)
  linked : ∀ number child, child ∈ arena.children number ↔ arena.parent? child = some number
  /-- Every node but the topmost one is a child of one node, and listed there once. -/
  listedOnce : ∀ child < arena.size, child ≠ root → ∃ number,
    (arena.children number).count child = 1 ∧
      ∀ other, child ∈ arena.children other → other = number
  topmost : ∀ number < arena.size, arena.parent? number = none ↔ number = root
  /-- A walk visits the numbers of a subtree in their order, and then it ends, however many
  more visits are allowed. -/
  walked : ∀ number node, tree.subtrees[number]? = some node →
    arena.walk number = List.range' number node.size ∧
      ∀ count, node.size ≤ count → arena.walkStack count [number] = List.range' number node.size

/-- The arena of a tree is its table. -/
theorem ofNode_isTableOf (tree : Node) : (ofNode tree).IsTableOf tree := by
  constructor
  case size => exact size_ofNode tree
  case nodes =>
    intro number
    by_cases inside : number < tree.size
    · obtain ⟨node, found⟩ := exists_subtree inside
      obtain ⟨parent, held⟩ := exists_holds_of_getElem? found
      obtain ⟨kind, value, span, children⟩ := node
      rw [found, held.entry?_eq, Option.map_some, Option.map_some, Node.length_numbers]
      rfl
    · have noNode : tree.subtrees[number]? = none :=
        List.getElem?_eq_none (by rwa [Node.length_subtrees, ← Nat.not_lt])
      rw [entry?_eq_none inside, noNode]
      rfl
  case children =>
    intro number node found
    obtain ⟨parent, held⟩ := exists_holds_of_getElem? found
    rw [held.children_eq]
    exact Node.map_getElem?_numbers (Node.subtreesAll_isPrefix_drop found)
  case ascending => exact children_pairwise_lt tree
  case linked => exact fun _ _ => mem_children_iff
  case listedOnce =>
    intro child inside other
    rw [size_ofNode] at inside
    obtain ⟨above, isAbove, member⟩ := isListed_of_ne_root inside other
    have distinct : ((ofNode tree).children above).Nodup :=
      (children_pairwise_lt tree above).imp Nat.ne_of_lt
    refine ⟨above, List.count_eq_one_of_mem distinct member, fun another isMember => ?_⟩
    exact Option.some.inj ((parent?_of_mem_children isMember).symm.trans isAbove)
  case topmost =>
    intro number inside
    rw [size_ofNode] at inside
    constructor
    · intro isNone
      by_contra other
      obtain ⟨above, isAbove, -⟩ := isListed_of_ne_root inside other
      rw [isNone] at isAbove
      cases isAbove
    · rintro rfl
      exact (holds_ofNode tree).parent?_eq
  case walked =>
    intro number node found
    obtain ⟨parent, held⟩ := exists_holds_of_getElem? found
    have within := held.size_le
    exact ⟨held.walkStack_eq (by omega), fun count enough => held.walkStack_eq enough⟩

end Arena

end BlockData
