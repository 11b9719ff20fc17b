import BlockData.Proofs.Tree.PreOrder

/-!
# Subtrees in arenas

An arena holds a tree from a number on if its entries there are those of the tree. It then
holds all subtrees of the tree, each from its own number on, and the number of a subtree is
its place in pre-order (`Holds.exists_of_getElem?`). So every node of an arena is the
topmost one of a subtree (`exists_holds_of_kind?`), and what is true of all subtrees can be
read off the arena.
-/

namespace BlockData

namespace Node

mutual

/-- The subtrees of a tree in pre-order, the tree itself first. -/
def subtrees : Node → List Node
  | .node kind value span children => .node kind value span children :: subtreesAll children

/-- The subtrees of some trees in pre-order. -/
def subtreesAll : List Node → List Node
  | [] => []
  | tree :: trees => tree.subtrees ++ subtreesAll trees

end

/-- The subtrees of neighbouring trees are listed one part after the other. -/
theorem subtreesAll_append (first second : List Node) :
    subtreesAll (first ++ second) = subtreesAll first ++ subtreesAll second := by
  induction first with
  | nil => rfl
  | cons tree trees inductionHypothesis =>
      rw [List.cons_append, subtreesAll, inductionHypothesis, subtreesAll, List.append_assoc]

mutual

/-- Every node is the topmost one of one subtree. -/
theorem length_subtrees : ∀ tree : Node, tree.subtrees.length = tree.size
  | .node kind value span children => by
      rw [subtrees, size, List.length_cons, length_subtreesAll]

/-- Every node of some trees is the topmost one of one subtree. -/
theorem length_subtreesAll : ∀ trees : List Node, (subtreesAll trees).length = sizeAll trees
  | [] => rfl
  | tree :: trees => by
      rw [subtreesAll, sizeAll, List.length_append, length_subtrees, length_subtreesAll]

end

end Node

namespace Arena

/-- An arena holds a tree from a number on. -/
def Holds (arena : Arena) (parent : Option Nat) (number : Nat) (tree : Node) : Prop :=
  tree.entries parent number <+: arena.entries.toList.drop number

/-- An arena holds neighbouring trees from a number on. -/
def HoldsAll (arena : Arena) (parent number : Nat) (trees : List Node) : Prop :=
  Node.entriesAll parent number trees <+: arena.entries.toList.drop number

/-- What a node stands for. -/
def kind? (arena : Arena) (number : Nat) : Option NodeKind :=
  arena.entry? number |>.map Entry.kind

/-- The value of a node. -/
def value? (arena : Arena) (number : Nat) : Option Value :=
  arena.entry? number |>.bind Entry.value

/-- An arena holds its tree. -/
theorem holds_ofNode (tree : Node) : (ofNode tree).Holds none root tree := by
  rw [Holds, toList_entries_ofNode]
  exact List.prefix_rfl

section

variable {arena : Arena} {kind : NodeKind} {value : Option Value} {span : Span}
  {tree : Node} {trees children : List Node} {parent : Option Nat} {number above : Nat}

/-- The entry of a tree that is held. -/
theorem Holds.entry?_eq (held : arena.Holds parent number (.node kind value span children)) :
    arena.entry? number =
      some ⟨kind, value, span, Node.numbers (number + 1) children, parent⟩ := by
  obtain ⟨after, listed⟩ := held
  rw [entry?_eq_head?, ← listed]
  rfl

/-- The kind of a tree that is held. -/
theorem Holds.kind?_eq (held : arena.Holds parent number tree) :
    arena.kind? number = some tree.kind := by
  obtain ⟨kind, value, span, children⟩ := tree
  rw [kind?, held.entry?_eq]
  rfl

/-- The value of a tree that is held. -/
theorem Holds.value?_eq (held : arena.Holds parent number tree) :
    arena.value? number = tree.value := by
  obtain ⟨kind, value, span, children⟩ := tree
  rw [value?, held.entry?_eq]
  rfl

/-- The children of a tree that is held are numbered from the next number on. -/
theorem Holds.children_eq (held : arena.Holds parent number tree) :
    arena.children number = Node.numbers (number + 1) tree.children := by
  obtain ⟨kind, value, span, children⟩ := tree
  rw [Arena.children, held.entry?_eq]
  rfl

/-- The children of a tree that is held are held behind its topmost node. -/
theorem Holds.below (held : arena.Holds parent number tree) :
    arena.HoldsAll number (number + 1) tree.children := by
  obtain ⟨kind, value, span, children⟩ := tree
  obtain ⟨after, listed⟩ := held
  refine ⟨after, ?_⟩
  rw [← List.tail_drop, ← listed]
  rfl

/-- The first of some trees that are held. -/
theorem HoldsAll.head (held : arena.HoldsAll above number (tree :: trees)) :
    arena.Holds (some above) number tree := by
  rw [HoldsAll, Node.entriesAll] at held
  exact (List.prefix_append _ _).trans held

/-- The others of some trees that are held are held behind the first one. -/
theorem HoldsAll.tail (held : arena.HoldsAll above number (tree :: trees)) :
    arena.HoldsAll above (number + tree.size) trees := by
  obtain ⟨after, listed⟩ := held
  refine ⟨after, ?_⟩
  rw [← List.drop_drop, ← listed, Node.entriesAll, List.append_assoc,
    ← Node.length_entries (some above) number tree, List.drop_left]

/-- The numbers of some trees that are held are those of nodes of their kinds. -/
theorem HoldsAll.exists_of_mem_numbers (held : arena.HoldsAll above number trees) {child : Nat}
    (member : child ∈ Node.numbers number trees) :
    ∃ tree ∈ trees, arena.kind? child = some tree.kind := by
  induction trees generalizing number with
  | nil => cases member
  | cons tree trees inductionHypothesis =>
      rcases List.mem_cons.mp member with rfl | member
      · exact ⟨tree, List.mem_cons_self, held.head.kind?_eq⟩
      · obtain ⟨other, isOther, found⟩ := inductionHypothesis held.tail member
        exact ⟨other, List.mem_cons_of_mem _ isOther, found⟩

/-- What is true of the kinds of all children of a tree that is held can be seen in the
arena. -/
theorem Holds.forall_children {motive : NodeKind → Prop} (held : arena.Holds parent number tree)
    (all : ∀ node ∈ tree.children, motive node.kind) :
    ∀ child ∈ arena.children number, ∃ kind, arena.kind? child = some kind ∧ motive kind := by
  intro child member
  rw [held.children_eq] at member
  obtain ⟨node, isChild, found⟩ := held.below.exists_of_mem_numbers member
  exact ⟨node.kind, found, all node isChild⟩

end

mutual

/-- The subtrees of a tree that is held are held, each from its place on. -/
theorem Holds.exists_of_getElem? {arena : Arena} : ∀ (tree : Node) {parent : Option Nat}
    {number : Nat}, arena.Holds parent number tree → ∀ {place : Nat} {subtree : Node},
      tree.subtrees[place]? = some subtree → ∃ parent, arena.Holds parent (number + place) subtree
  | .node kind value span children, parent, number, held, 0, subtree, found =>
      ⟨parent, Option.some.inj found ▸ held⟩
  | .node kind value span children, parent, number, held, place + 1, subtree, found => by
      have isBelow : (Node.subtreesAll children)[place]? = some subtree := found
      have behind := HoldsAll.exists_of_getElem? children held.below isBelow
      rwa [Nat.add_assoc, Nat.add_comm 1 place] at behind

/-- The subtrees of trees that are held are held, each from its place on. -/
theorem HoldsAll.exists_of_getElem? {arena : Arena} : ∀ (trees : List Node) {above number : Nat},
    arena.HoldsAll above number trees → ∀ {place : Nat} {subtree : Node},
      (Node.subtreesAll trees)[place]? = some subtree →
        ∃ parent, arena.Holds parent (number + place) subtree
  | [], _, _, _, _, _, found => by cases found
  | tree :: trees, above, number, held, place, subtree, found => by
      rw [Node.subtreesAll] at found
      by_cases within : place < tree.size
      · rw [List.getElem?_append_left (by rwa [Node.length_subtrees])] at found
        exact Holds.exists_of_getElem? tree held.head found
      · rw [List.getElem?_append_right (by rw [Node.length_subtrees]; omega),
          Node.length_subtrees] at found
        have behind := HoldsAll.exists_of_getElem? trees held.tail found
        rwa [show number + tree.size + (place - tree.size) = number + place by omega] at behind

end

/-- Every entry of an arena is that of a subtree, which is held at its number. -/
theorem exists_holds_of_entry? {tree : Node} {number : Nat} {entry : Entry}
    (found : entry? (ofNode tree) number = some entry) :
    ∃ parent subtree, tree.subtrees[number]? = some subtree ∧
      (ofNode tree).Holds parent number subtree ∧ entry.kind = subtree.kind ∧
      entry.span = subtree.span := by
  have inside : number < tree.subtrees.length := by
    obtain ⟨inside, -⟩ := Array.getElem?_eq_some_iff.mp found
    rw [Node.length_subtrees, ← size_ofNode]
    exact inside
  obtain ⟨subtree, listed⟩ : ∃ subtree, tree.subtrees[number]? = some subtree :=
    ⟨_, List.getElem?_eq_getElem inside⟩
  obtain ⟨parent, held⟩ := (holds_ofNode tree).exists_of_getElem? tree listed
  rw [root, Nat.zero_add] at held
  obtain ⟨kind, value, span, children⟩ := subtree
  obtain rfl := Option.some.inj (found.symm.trans held.entry?_eq)
  exact ⟨parent, _, listed, held, rfl, rfl⟩

/-- Every node of an arena is the topmost one of a subtree. -/
theorem exists_holds_of_kind? {tree : Node} {number : Nat} {kind : NodeKind}
    (found : (ofNode tree).kind? number = some kind) :
    ∃ parent subtree, tree.subtrees[number]? = some subtree ∧
      (ofNode tree).Holds parent number subtree ∧ subtree.kind = kind := by
  obtain ⟨entry, isEntry, rfl⟩ := Option.map_eq_some_iff.mp found
  obtain ⟨parent, subtree, listed, held, sameKind, -⟩ := exists_holds_of_entry? isEntry
  exact ⟨parent, subtree, listed, held, sameKind.symm⟩

end Arena

end BlockData
