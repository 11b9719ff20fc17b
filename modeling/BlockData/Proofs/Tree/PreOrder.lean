import BlockData.Arena

/-!
# Pre-order numbers

The table that an arena makes of a tree: the entries of a tree are those of its
topmost node and of its children from left to right, and the number of a node is
its place in this list. `toList_entries_ofNode` says that an arena lists the entries
of its tree, and `walkStack_subtree` that a walk visits the numbers of a subtree one
after the other.
-/

namespace BlockData

namespace Node

/-- The numbers of neighbouring trees, if the first one has the number `number`. -/
def numbers (number : Nat) : List Node → List Nat
  | [] => []
  | tree :: trees => number :: numbers (number + tree.size) trees

mutual

/-- The entries of a tree whose topmost node has the number `number`. -/
def entries (parent : Option Nat) (number : Nat) : Node → List Entry
  | .node kind value span children =>
      ⟨kind, value, span, numbers (number + 1) children, parent⟩ ::
        entriesAll number (number + 1) children

/-- The entries of neighbouring trees, the first of which has the number `number`. -/
def entriesAll (parent number : Nat) : List Node → List Entry
  | [] => []
  | tree :: trees =>
      tree.entries (some parent) number ++ entriesAll parent (number + tree.size) trees

end

/-- Every tree has its number. -/
@[simp] theorem length_numbers (number : Nat) (trees : List Node) :
    (numbers number trees).length = trees.length := by
  induction trees generalizing number with
  | nil => rfl
  | cons tree trees inductionHypothesis => simp [numbers, inductionHypothesis]

/-- The entries of neighbouring trees are listed one part after the other. -/
theorem entriesAll_append (parent number : Nat) (first second : List Node) :
    entriesAll parent number (first ++ second) =
      entriesAll parent number first ++ entriesAll parent (number + sizeAll first) second := by
  induction first generalizing number with
  | nil => rfl
  | cons tree trees inductionHypothesis =>
      rw [List.cons_append, entriesAll, inductionHypothesis, entriesAll, sizeAll,
        List.append_assoc, Nat.add_assoc]

mutual

/-- Every node has one entry. -/
theorem length_entries (parent : Option Nat) (number : Nat) :
    ∀ tree : Node, (tree.entries parent number).length = tree.size
  | .node kind value span children => by
      rw [entries, size, List.length_cons, length_entriesAll]

/-- Every node of some trees has one entry. -/
theorem length_entriesAll (parent number : Nat) :
    ∀ trees : List Node, (entriesAll parent number trees).length = sizeAll trees
  | [] => rfl
  | tree :: trees => by
      rw [entriesAll, sizeAll, List.length_append, length_entries, length_entriesAll]

end

end Node

namespace Arena

/-- Changing the element behind some others changes nothing else. -/
theorem modify_length_append {α : Type} (before : List α) (changed : α) (after : List α)
    (change : α → α) :
    (before ++ changed :: after).modify before.length change =
      before ++ change changed :: after := by
  induction before with
  | nil => rfl
  | cons first others inductionHypothesis => simpa using inductionHypothesis

mutual

/-- Inserting a tree appends its entries. -/
theorem toList_insert (parent : Option Nat) (entries : Array Entry) :
    ∀ tree : Node, (insert parent entries tree).toList =
      entries.toList ++ tree.entries parent entries.size
  | .node kind value span children => by
      have filled := insertAll_eq entries.size
        (entries.push ⟨kind, value, span, [], parent⟩) children
      rw [Array.size_push, Array.toList_push] at filled
      rw [insert, Node.entries, Array.toList_modify, filled.1, filled.2, List.append_assoc,
        List.singleton_append, ← Array.length_toList, modify_length_append]

/-- Inserting trees appends their entries, and gives their numbers. -/
theorem insertAll_eq (parent : Nat) (entries : Array Entry) :
    ∀ trees : List Node, (insertAll parent entries trees).1.toList =
        entries.toList ++ Node.entriesAll parent entries.size trees ∧
      (insertAll parent entries trees).2 = Node.numbers entries.size trees
  | [] => ⟨by simp [insertAll, Node.entriesAll], rfl⟩
  | tree :: trees => by
      have first := toList_insert (some parent) entries tree
      have size : (insert (some parent) entries tree).size = entries.size + tree.size := by
        rw [← Array.length_toList, first, List.length_append, Node.length_entries,
          Array.length_toList]
      have others := insertAll_eq parent (insert (some parent) entries tree) trees
      rw [size] at others
      constructor
      · rw [insertAll, others.1, first, Node.entriesAll, List.append_assoc]
      · exact congrArg (entries.size :: ·) others.2

end

/-- An arena lists the entries of its tree. -/
theorem toList_entries_ofNode (tree : Node) :
    (ofNode tree).entries.toList = tree.entries none 0 :=
  toList_insert none #[] tree

/-- An arena has as many nodes as its tree. -/
@[simp] theorem size_ofNode (tree : Node) : (ofNode tree).size = tree.size := by
  rw [size, ← Array.length_toList, toList_entries_ofNode, Node.length_entries]

/-- The entry of a number is the first of those from it on. -/
theorem entry?_eq_head? (arena : Arena) (number : Nat) :
    arena.entry? number = (arena.entries.toList.drop number).head? := by
  rw [ entry?, List.head?_drop, Array.getElem?_toList]

mutual

/-- A walk visits the numbers of a subtree one after the other before it goes on with
the stack. -/
theorem walkStack_subtree (arena : Arena) (count : Nat) (stack : List Nat) :
    ∀ (tree : Node) (parent : Option Nat) (number : Nat) (after : List Entry),
      arena.entries.toList.drop number = tree.entries parent number ++ after →
        arena.walkStack (tree.size + count) (number :: stack) =
          List.range' number tree.size ++ arena.walkStack count stack
  | .node kind value span children, parent, number, after, listed => by
      have below : arena.entries.toList.drop (number + 1) =
          Node.entriesAll number (number + 1) children ++ after := by
        rw [← List.tail_drop, listed]
        rfl
      have children_eq : arena.children number = Node.numbers (number + 1) children := by
        rw [Arena.children, entry?_eq_head?, listed]
        rfl
      rw [Node.size, Nat.add_right_comm, walkStack, children_eq, List.range'_succ,
        List.cons_append,
        walkStack_subtrees arena count stack children number (number + 1) after below]

/-- A walk visits the numbers of neighbouring subtrees one after the other before it
goes on with the stack. -/
theorem walkStack_subtrees (arena : Arena) (count : Nat) (stack : List Nat) :
    ∀ (trees : List Node) (parent number : Nat) (after : List Entry),
      arena.entries.toList.drop number = Node.entriesAll parent number trees ++ after →
        arena.walkStack (Node.sizeAll trees + count) (Node.numbers number trees ++ stack) =
          List.range' number (Node.sizeAll trees) ++ arena.walkStack count stack
  | [], parent, number, after, listed => by simp [Node.sizeAll, Node.numbers]
  | tree :: trees, parent, number, after, listed => by
      rw [Node.entriesAll, List.append_assoc] at listed
      have behind : arena.entries.toList.drop (number + tree.size) =
          Node.entriesAll parent (number + tree.size) trees ++ after := by
        rw [← List.drop_drop, listed, ← Node.length_entries (some parent) number tree,
          List.drop_left]
      rw [Node.sizeAll, Node.numbers, Nat.add_assoc, List.cons_append,
        walkStack_subtree arena _ _ tree (some parent) number _ listed,
        walkStack_subtrees arena count stack trees parent _ after behind, ← List.append_assoc,
        List.range'_append_1]

end

/-- A walk from the topmost node visits all numbers in their order. -/
theorem walk_ofNode_root (tree : Node) : (ofNode tree).walk root = List.range tree.size := by
  have visited := walkStack_subtree (ofNode tree) 0 [] tree none 0 []
    (by rw [List.drop_zero, toList_entries_ofNode, List.append_nil])
  rw [walk, size_ofNode, List.range_eq_range']
  simpa [walkStack, root] using visited

/-- The nodes that a walk visits, in their order. -/
def visited (arena : Arena) (number : Nat) : List Entry :=
  (arena.walk number).filterMap arena.entry?

/-- Looking up every place of a list gives the list. -/
theorem filterMap_range_getElem? {α : Type} (list : List α) :
    (List.range list.length).filterMap (fun place => list[place]?) = list := by
  induction list with
  | nil => rfl
  | cons first others inductionHypothesis =>
      rw [List.length_cons, List.range_succ_eq_map,
        List.filterMap_cons_some List.getElem?_cons_zero, List.filterMap_map]
      exact congrArg (first :: ·) inductionHypothesis

/-- A walk from the topmost node visits all entries in their order. -/
theorem visited_ofNode_root (tree : Node) : (ofNode tree).visited root = tree.entries none 0 := by
  have lookup : entry? (ofNode tree) = fun number => (tree.entries none 0)[number]? := by
    funext number
    rw [ entry?, ← Array.getElem?_toList, toList_entries_ofNode]
  rw [visited, walk_ofNode_root, lookup, ← Node.length_entries none 0 tree,
    filterMap_range_getElem?]

end Arena

end BlockData
