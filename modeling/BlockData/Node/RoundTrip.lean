import BlockData.Arena
import BlockData.Node.Canonical

/-!
# Round trips

A tree is printed and its text is parsed again. What comes back should have the
shape of the tree, and print as the same text; its places may differ.
-/

namespace BlockData

/-- How a tree that was printed and parsed again compares with itself. -/
structure Comparison where
  /-- Kinds, values and order of children agree. -/
  sameShape : Bool
  /-- The text of both is the same. -/
  stable : Bool
  /-- Everything agrees, places included. -/
  equal : Bool
deriving DecidableEq, Repr

/-- The text of a tree, and what parsing it gives. -/
structure RoundTrip where
  printed : String
  reparsed : Except ParseError Comparison

/-- Prints a tree and parses its text again. -/
def Node.roundTrip (indent : Nat) (tree : Node) : Except PrintError RoundTrip :=
  match tree.canonical indent with
  | .error error => .error error
  | .ok printed =>
      .ok ⟨printed, (parse printed).map fun reparsed =>
        let before := Arena.ofNode tree
        let after := Arena.ofNode reparsed
        { sameShape := before.sameShape after
          stable := match reparsed.canonical indent with
            | .ok again => again == printed
            | .error _ => false
          equal := before.same after }⟩

end BlockData
