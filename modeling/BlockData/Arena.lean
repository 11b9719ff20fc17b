import BlockData.Node

/-!
# Arenas

An arena is a tree as a table: its nodes are numbered in pre-order from zero,
and they refer to their children and their parent by number. `ofNode` lays a
tree out, `walk` visits a subtree with a stack of pending numbers, and
`subtree?` reads a tree back.
-/

namespace BlockData

/-- One node of an arena. -/
structure Entry where
  kind : NodeKind
  value : Option Value
  span : Span
  children : List Nat
  parent : Option Nat
deriving DecidableEq

/-- A table of nodes. -/
structure Arena where
  entries : Array Entry
deriving DecidableEq

namespace Arena

mutual

/-- Appends a tree to a table. Its nodes take the next free numbers. -/
def insert (parent : Option Nat) (entries : Array Entry) : Node → Array Entry
  | .node kind value span children =>
      let number := entries.size
      let (filled, numbers) :=
        insertAll number (entries.push ⟨kind, value, span, [], parent⟩) children
      filled.modify number fun entry => { entry with children := numbers }

/-- Appends trees to a table, one after the other, and gives their numbers. -/
def insertAll (parent : Nat) (entries : Array Entry) : List Node → Array Entry × List Nat
  | [] => (entries, [])
  | tree :: trees =>
      -- read off first, so that the table has one owner and is changed in place
      let number := entries.size
      let (filled, numbers) := insertAll parent (insert (some parent) entries tree) trees
      (filled, number :: numbers)

end

/-- The arena of a tree. -/
def ofNode (tree : Node) : Arena :=
  ⟨insert none #[] tree⟩

/-- The number of the topmost node. -/
def root : Nat :=
  0

/-- The number of nodes. -/
def size (arena : Arena) : Nat :=
  arena.entries.size

/-- Whether there are no nodes. -/
def isEmpty (arena : Arena) : Bool :=
  arena.entries.isEmpty

/-- A node by its number. -/
def entry? (arena : Arena) (number : Nat) : Option Entry :=
  arena.entries[number]?

/-- The children of a node. -/
def children (arena : Arena) (number : Nat) : List Nat :=
  arena.entry? number |>.elim [] Entry.children

/-- The parent of a node. -/
def parent? (arena : Arena) (number : Nat) : Option Nat :=
  arena.entry? number |>.bind Entry.parent

/-- Whether a node is of a kind. -/
def hasKind (arena : Arena) (kind : NodeKind) (number : Nat) : Bool :=
  arena.entry? number |>.any fun entry => entry.kind == kind

/-- The program: the topmost node, or the first child of a root. -/
def program? (arena : Arena) : Option Nat :=
  if arena.hasKind .program root then some root
  else if arena.hasKind .root root then
    (arena.children root).head?.filter (arena.hasKind .program)
  else none

/-- Visits at most `count` nodes: the number on top of the stack, and then its
children before the rest of the stack. -/
def walkStack (arena : Arena) : Nat → List Nat → List Nat
  | 0, _ => []
  | _ + 1, [] => []
  | count + 1, number :: stack =>
      number :: arena.walkStack count (arena.children number ++ stack)

/-- The nodes of a subtree, every node before its children. A subtree has no
more nodes than its arena. -/
def walk (arena : Arena) (number : Nat) : List Nat :=
  arena.walkStack arena.size [number]

/-- Whether two nodes agree in kind, value and number of children. -/
def entriesAgree (left right : Entry) : Bool :=
  left.kind == right.kind && Value.sameOptional left.value right.value &&
    left.children.length == right.children.length

/-- Whether two lists of nodes agree node by node. -/
def visitsAgree (left right : Arena) : List Nat → List Nat → Bool
  | [], [] => true
  | leftNumber :: lefts, rightNumber :: rights =>
      (match left.entry? leftNumber, right.entry? rightNumber with
        | some leftEntry, some rightEntry => entriesAgree leftEntry rightEntry
        | _, _ => false) && visitsAgree left right lefts rights
  | _, _ => false

/-- Equality in kinds, values and order of children, found by walking both
arenas side by side. -/
def sameShape (left right : Arena) : Bool :=
  visitsAgree left right (left.walk root) (right.walk root)

/-- Whether two nodes agree in everything, values compared by `Value.same`. -/
def entriesSame (left right : Entry) : Bool :=
  left.kind == right.kind && Value.sameOptional left.value right.value &&
    left.span == right.span && left.children == right.children && left.parent == right.parent

/-- Equality in everything, places included. -/
def same (left right : Arena) : Bool :=
  left.size == right.size &&
    (left.entries.toList.zip right.entries.toList).all fun pair => entriesSame pair.1 pair.2

/-- The tree below a node, if it is no deeper than `depth`. -/
def subtreeWithin (arena : Arena) : Nat → Nat → Option Node
  | 0, _ => none
  | depth + 1, number => do
      let entry ← arena.entry? number
      let children ← entry.children.mapM (arena.subtreeWithin depth)
      return .node entry.kind entry.value entry.span children

/-- The tree below a node. A tree is no deeper than its arena has nodes. -/
def subtree? (arena : Arena) (number : Nat) : Option Node :=
  arena.subtreeWithin arena.size number

end Arena

end BlockData
