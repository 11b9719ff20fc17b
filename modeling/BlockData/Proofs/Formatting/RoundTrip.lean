import BlockData.Proofs.Formatting.Derived
import BlockData.Proofs.Tree.Shape
import Mathlib

/-!
# Round trips through canonical text

The canonical text of a well-formed tree is parsed to the tree, apart from places
(`Node.exists_parse_canonical`). Whatever is parsed is well formed, so formatting a text
keeps its meaning and is a normal form; and since shapes keep trees well formed, the
well-formed trees are all that survive printing and parsing.
-/

namespace BlockData

/-- Tokens that are spelled like the statements of a well-formed tree are parsed to the
tree, apart from places. -/
theorem TokenStream.exists_parse_of_spelled {statements : List Node}
    (body : IsBody .statements statements) {stream : TokenStream}
    (spelled : stream.tokens.map Token.word = Node.writtenLines statements) :
    ∃ span programSpan children,
      stream.parse = .ok (.node .root none span [.node .program none programSpan children]) ∧
        Node.unplacedAll children = Node.unplacedAll statements := by
  obtain ⟨program, derives, same⟩ := body.exists_derivation spelled
  have parsed := TokenStream.parse_tokens program stream.finalSpan areEnds_nil
  rw [derives, List.append_nil] at parsed
  exact ⟨_, _, program.nodes, parsed, same⟩

/-- The canonical text of a well-formed tree is parsed to the tree, apart from places. -/
theorem Node.exists_parse_canonical {tree : Node} (wellFormed : tree.isWellFormed = true)
    (indent : Nat) : ∃ text reparsed, tree.canonical indent = .ok text ∧
      parse text = .ok reparsed ∧ reparsed.unplaced = tree.unplaced := by
  obtain ⟨span, programSpan, statements, rfl, body⟩ := Node.isWellFormed_iff.mp wellFormed
  obtain ⟨text, isText, isRead⟩ := Node.exists_canonical body span programSpan indent
  have spelled := (Cursor.ofString text).map_word_significant
  rw [show (Cursor.ofString text).rest = text.toList from rfl, isRead] at spelled
  obtain ⟨_, _, children, parsed, same⟩ := TokenStream.exists_parse_of_spelled body spelled
  refine ⟨text, _, isText, parsed, ?_⟩
  simp only [Node.unplaced, Node.unplacedAll, same]

/-- Formatting a text keeps its meaning and is a normal form. The tree of a text has a
canonical text at every indentation, which is parsed to the same kinds, values (bit for
bit) and order of children; and formatting that text again, at any indentation, is
formatting the first text at that indentation. -/
theorem parse_canonical {source : String} {tree : Node} (parsed : parse source = .ok tree)
    (first second : Nat) : ∃ text reparsed, tree.canonical first = .ok text ∧
      parse text = .ok reparsed ∧ reparsed.unplaced = tree.unplaced ∧
      (Arena.ofNode tree).sameShape (Arena.ofNode reparsed) = true ∧
      reparsed.canonical second = tree.canonical second := by
  have wellFormed := isWellFormed_of_parse parsed
  obtain ⟨text, reparsed, isText, isParsed, same⟩ := Node.exists_parse_canonical wellFormed first
  refine ⟨text, reparsed, isText, isParsed, same, ?_, Node.canonical_congr same second⟩
  rw [Arena.sameShape_ofNode]
  exact Node.sameShape_of_unplaced wellFormed same.symm

/-- A block that is a parameter keeps its meaning. -/
theorem parse_canonical_of_block : ∃ tree reparsed, parse "a   [-7;]\n" = .ok tree ∧
    tree.canonical 2 = .ok "a [\n  -7\n]\n" ∧ parse "a [\n  -7\n]\n" = .ok reparsed ∧
    reparsed.unplaced = tree.unplaced ∧
    (Arena.ofNode tree).sameShape (Arena.ofNode reparsed) = true ∧
    reparsed.canonical 4 = tree.canonical 4 := by
  obtain ⟨tree, parsed, isText⟩ : ∃ tree, parse "a   [-7;]\n" = .ok tree ∧
      tree.canonical 2 = .ok "a [\n  -7\n]\n" := exists_parse_of_map (by cbv)
  obtain ⟨text, reparsed, isCanonical, reparse, others⟩ := parse_canonical parsed 2 4
  cases isCanonical.symm.trans isText
  exact ⟨tree, reparsed, parsed, isText, reparse, others⟩

/-- The trees that survive printing and parsing, at any indentation, are the well-formed
ones. -/
theorem isWellFormed_iff_survives (draft : Node) (indent : Nat) : draft.isWellFormed = true ↔
    ∃ text tree, draft.canonical indent = .ok text ∧ parse text = .ok tree ∧
      (Arena.ofNode draft).sameShape (Arena.ofNode tree) = true := by
  constructor
  · intro wellFormed
    obtain ⟨text, reparsed, isText, parsed, same⟩ :=
      Node.exists_parse_canonical wellFormed indent
    refine ⟨text, reparsed, isText, parsed, ?_⟩
    rw [Arena.sameShape_ofNode]
    exact Node.sameShape_of_unplaced wellFormed same.symm
  · rintro ⟨text, tree, -, parsed, same⟩
    rw [Arena.sameShape_ofNode] at same
    exact Node.isWellFormed_of_sameShape same (isWellFormed_of_parse parsed)

end BlockData
