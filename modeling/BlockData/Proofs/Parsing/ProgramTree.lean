import BlockData.Proofs.Formatting.Derived
import BlockData.Proofs.Tree.Subtrees
import Mathlib

/-!
# Trees of programs

The shape that every parsed tree has, as it can be seen in its arena. What a derivation
leaves below the program is a leaf of one of its tokens, an expression, a list of
parameters or a block (`Derivation.isInner`), and the shape can be read off these four
cases. If the tokens were read from a text, then all leaves hold values that fit their
kinds, and the tree has a canonical text.
-/

namespace BlockData

namespace NodeKind

/-- Whether a node may be a statement: an expression, a block or a comment. -/
def isStatement : NodeKind → Bool
  | .expression => true
  | .block _ => true
  | .leaf kind => kind == .comment
  | _ => false

/-- Whether a node may be a parameter: a value or a block. -/
def isParameter : NodeKind → Bool
  | .block _ => true
  | .leaf kind => kind.isValue
  | _ => false

/-- Whether a node stands above the statements of a program. -/
def isTop : NodeKind → Bool
  | .root => true
  | .program => true
  | _ => false

/-- Whether a node is a leaf. -/
def isLeaf : NodeKind → Bool
  | .leaf _ => true
  | _ => false

/-- Every block may be a statement. -/
theorem isStatement_of_isBlock {kind : NodeKind} (isBlock : kind.isBlock = true) :
    kind.isStatement = true := by
  cases kind <;> first | rfl | cases isBlock

/-- Every block may be a parameter. -/
theorem isParameter_of_isBlock {kind : NodeKind} (isBlock : kind.isBlock = true) :
    kind.isParameter = true := by
  cases kind <;> first | rfl | cases isBlock

end NodeKind

/-- The shape of the tree of a program. -/
structure Arena.IsProgramTree (arena : Arena) : Prop where
  /-- The topmost node is a root, and its one child is a program. -/
  root : arena.kind? root = some .root ∧
    ∃ program, arena.children root = [program] ∧ arena.kind? program = some .program
  /-- There is no other root. -/
  onlyRoot : ∀ number, arena.kind? number = some .root → number = Arena.root
  /-- There is no other program. -/
  onlyProgram : ∀ number, arena.kind? number = some .program → number ∈ arena.children Arena.root
  /-- No blank statements are kept. -/
  noBlank : ∀ number, arena.kind? number ≠ some .blank
  /-- The children of a program or a block are statements. -/
  statements : ∀ number kind, arena.kind? number = some kind →
    kind = .program ∨ kind.isBlock = true →
    ∀ child ∈ arena.children number, ∃ kind, arena.kind? child = some kind ∧ kind.isStatement = true
  /-- An expression has two children: a value, and a list of parameters behind it. -/
  expressions : ∀ number, arena.kind? number = some .expression →
    ∃ head parameters kind, arena.children number = [head, parameters] ∧
      arena.kind? head = some (.leaf (.value kind)) ∧ arena.kind? parameters = some .paramlist
  /-- The children of a list of parameters are values and blocks. -/
  parameters : ∀ number, arena.kind? number = some .paramlist →
    ∀ child ∈ arena.children number, ∃ kind, arena.kind? child = some kind ∧ kind.isParameter = true
  /-- A leaf has no children. -/
  leaves : ∀ number kind, arena.kind? number = some (.leaf kind) → arena.children number = []
  /-- The node of a rule has no value. -/
  rules : ∀ number kind, arena.kind? number = some kind → kind.isLeaf = false →
    arena.value? number = none

/-- Whether nodes of a kind may stand among those of a phrase. -/
def Phrase.admits : Phrase → NodeKind → Bool
  | .program => NodeKind.isStatement
  | .statement => NodeKind.isStatement
  | .expression => fun kind => kind == .expression
  | .paramlist => NodeKind.isParameter
  | .parameter => NodeKind.isParameter
  | .block => NodeKind.isBlock
  | .blank => fun _ => false

/-- What stands below the program in the tree of a program of some tokens. -/
inductive IsInner (source : List Token) : Node → Prop where
  | leaf (token : Token) (member : token ∈ source) : IsInner source (.ofToken token)
  | expression (head : Token) (isValue : head.kind.isValue = true) (span place : Span)
      (parameters : Derivation .paramlist) :
      IsInner source (.node .expression none span
        [.ofToken head, .node .paramlist none place parameters.nodes])
  | paramlist (place : Span) (parameters : Derivation .paramlist) :
      IsInner source (.node .paramlist none place parameters.nodes)
  | block (delimiter : Delimiter) (span : Span) (inner : Derivation .program) :
      IsInner source (.node (.block delimiter) none span inner.nodes)

namespace Derivation

/-- The nodes of a derivation are of the kinds of its phrase. -/
theorem admits_kind {phrase : Phrase} (derivation : Derivation phrase) :
    ∀ node ∈ derivation.nodes, phrase.admits node.kind = true := by
  induction derivation with
  | emptyProgram => nofun
  | program first others firstHypothesis othersHypothesis =>
      intro node member
      exact (List.mem_append.mp member).elim (firstHypothesis node) (othersHypothesis node)
  | expressionStatement child inductionHypothesis =>
      intro node member
      have isExpression : node.kind = .expression := eq_of_beq (inductionHypothesis node member)
      rw [isExpression]
      rfl
  | blockStatement child inductionHypothesis =>
      exact fun node member => NodeKind.isStatement_of_isBlock (inductionHypothesis node member)
  | blankStatement child => nofun
  | comment token isComment =>
      intro node member
      obtain rfl := List.mem_singleton.mp member
      exact beq_iff_eq.mpr isComment
  | expression head isValue parameters terminator isTerminator =>
      intro node member
      obtain rfl := List.mem_singleton.mp member
      rfl
  | emptyParamlist => nofun
  | paramlist first others firstHypothesis othersHypothesis =>
      intro node member
      exact (List.mem_append.mp member).elim (firstHypothesis node) (othersHypothesis node)
  | value token isValue =>
      intro node member
      obtain rfl := List.mem_singleton.mp member
      exact isValue
  | blockParameter child inductionHypothesis =>
      exact fun node member => NodeKind.isParameter_of_isBlock (inductionHypothesis node member)
  | block delimiter opened opens inner closed closes =>
      intro node member
      obtain rfl := List.mem_singleton.mp member
      rfl
  | blank terminator isTerminator => nofun

/-- What a derivation leaves in the tree are leaves of its tokens, expressions, lists of
parameters and blocks. -/
theorem isInner {phrase : Phrase} (derivation : Derivation phrase) {source : List Token}
    (within : derivation.tokens ⊆ source) :
    ∀ node ∈ Node.subtreesAll derivation.nodes, IsInner source node := by
  induction derivation with
  | emptyProgram =>
      intro node member
      cases member
  | program first others firstHypothesis othersHypothesis =>
      obtain ⟨firstWithin, othersWithin⟩ := List.append_subset.mp within
      intro node member
      rw [nodes, Node.subtreesAll_append, List.mem_append] at member
      exact member.elim (firstHypothesis firstWithin node) (othersHypothesis othersWithin node)
  | expressionStatement child inductionHypothesis => exact inductionHypothesis within
  | blockStatement child inductionHypothesis => exact inductionHypothesis within
  | blankStatement child =>
      intro node member
      cases member
  | comment token isComment =>
      intro node member
      obtain rfl := List.mem_singleton.mp member
      exact .leaf token (within List.mem_cons_self)
  | expression head isValue parameters terminator isTerminator inductionHypothesis =>
      obtain ⟨isHead, behindWithin⟩ := List.cons_subset.mp within
      obtain ⟨parametersWithin, -⟩ := List.append_subset.mp behindWithin
      intro node member
      simp only [nodes, Node.subtreesAll, Node.subtrees, Node.ofToken, List.append_nil,
        List.mem_cons, List.cons_append, List.nil_append] at member
      rcases member with rfl | rfl | rfl | member
      · exact .expression head isValue _ _ parameters
      · exact .leaf head isHead
      · exact .paramlist _ parameters
      · exact inductionHypothesis parametersWithin node member
  | emptyParamlist =>
      intro node member
      cases member
  | paramlist first others firstHypothesis othersHypothesis =>
      obtain ⟨firstWithin, othersWithin⟩ := List.append_subset.mp within
      intro node member
      rw [nodes, Node.subtreesAll_append, List.mem_append] at member
      exact member.elim (firstHypothesis firstWithin node) (othersHypothesis othersWithin node)
  | value token isValue =>
      intro node member
      obtain rfl := List.mem_singleton.mp member
      exact .leaf token (within List.mem_cons_self)
  | blockParameter child inductionHypothesis => exact inductionHypothesis within
  | block delimiter opened opens inner closed closes inductionHypothesis =>
      obtain ⟨-, behindWithin⟩ := List.cons_subset.mp within
      obtain ⟨innerWithin, -⟩ := List.append_subset.mp behindWithin
      intro node member
      simp only [nodes, Node.subtreesAll, Node.subtrees, List.append_nil, List.mem_cons] at member
      rcases member with rfl | member
      · exact .block delimiter _ inner
      · exact inductionHypothesis innerWithin node member
  | blank terminator isTerminator =>
      intro node member
      cases member

/-- The subtrees of the tree of a program: the root, the program, and what the derivation
leaves below them. -/
theorem subtrees_tree (program : Derivation .program) (finalSpan : Span) :
    (program.tree finalSpan).subtrees = program.tree finalSpan ::
      .node .program none (program.tokens.headD (.atEnd finalSpan)).span program.nodes ::
        Node.subtreesAll program.nodes := by
  rw [tree, Node.subtrees, Node.subtreesAll, Node.subtrees, Node.subtreesAll, List.append_nil]

end Derivation

namespace Arena

section

variable {program : Derivation .program} {finalSpan : Span} {number : Nat}

/-- What stands at a number of the arena of a program: the root, the program, or what the
derivation leaves below it. -/
theorem exists_inner {kind : NodeKind}
    (found : (ofNode (program.tree finalSpan)).kind? number = some kind) :
    (number = root ∧ kind = .root) ∨ (number = root + 1 ∧ kind = .program) ∨
      ∃ parent subtree, (ofNode (program.tree finalSpan)).Holds parent number subtree ∧
        IsInner program.tokens subtree ∧ subtree.kind = kind := by
  obtain ⟨parent, subtree, listed, held, rfl⟩ := exists_holds_of_kind? found
  rw [program.subtrees_tree] at listed
  cases number with
  | zero =>
      obtain rfl := Option.some.inj listed
      exact .inl ⟨rfl, rfl⟩
  | succ number =>
      cases number with
      | zero =>
          obtain rfl := Option.some.inj listed
          exact .inr (.inl ⟨rfl, rfl⟩)
      | succ number =>
          rw [List.getElem?_cons_succ, List.getElem?_cons_succ] at listed
          have inner := program.isInner (List.Subset.refl _) subtree (List.mem_of_getElem? listed)
          exact .inr (.inr ⟨parent, subtree, held, inner, rfl⟩)

/-- What is neither the root nor the program is left below them. -/
theorem exists_inner_of_not_isTop {kind : NodeKind}
    (found : (ofNode (program.tree finalSpan)).kind? number = some kind)
    (notTop : kind.isTop = false) :
    ∃ parent subtree, (ofNode (program.tree finalSpan)).Holds parent number subtree ∧
      IsInner program.tokens subtree ∧ subtree.kind = kind := by
  obtain ⟨-, rfl⟩ | ⟨-, rfl⟩ | isInner := exists_inner found
  · cases notTop
  · cases notTop
  · exact isInner

/-- The program stands below the root. -/
theorem holds_program :
    (ofNode (program.tree finalSpan)).Holds (some root) (root + 1)
      (.node .program none (program.tokens.headD (.atEnd finalSpan)).span program.nodes) :=
  (holds_ofNode (program.tree finalSpan)).below.head

end

/-- The arena of a program has the shape of the tree of a program. -/
theorem isProgramTree_ofNode (program : Derivation .program) (finalSpan : Span) :
    (ofNode (program.tree finalSpan)).IsProgramTree := by
  have held := holds_ofNode (program.tree finalSpan)
  constructor
  case root => exact ⟨held.kind?_eq, _, held.children_eq, holds_program.kind?_eq⟩
  case onlyRoot =>
    intro number found
    obtain ⟨isRoot, -⟩ | ⟨-, isProgram⟩ | ⟨parent, subtree, -, inner, isKind⟩ := exists_inner found
    · exact isRoot
    · cases isProgram
    · cases inner <;> cases isKind
  case onlyProgram =>
    intro number found
    obtain ⟨-, isRoot⟩ | ⟨rfl, -⟩ | ⟨parent, subtree, -, inner, isKind⟩ := exists_inner found
    · cases isRoot
    · rw [held.children_eq]
      exact List.mem_cons_self
    · cases inner <;> cases isKind
  case noBlank =>
    intro number found
    obtain ⟨parent, subtree, -, inner, isKind⟩ := exists_inner_of_not_isTop found rfl
    cases inner <;> cases isKind
  case statements =>
    intro number kind found holdsStatements
    obtain ⟨-, rfl⟩ | ⟨rfl, rfl⟩ | ⟨parent, subtree, held, inner, rfl⟩ := exists_inner found
    · rcases holdsStatements with isProgram | isBlock
      · cases isProgram
      · cases isBlock
    · exact holds_program.forall_children program.admits_kind
    · cases inner with
      | block delimiter span statements => exact held.forall_children statements.admits_kind
      | _ =>
          rcases holdsStatements with isProgram | isBlock
          · cases isProgram
          · cases isBlock
  case expressions =>
    intro number found
    obtain ⟨parent, subtree, held, inner, isKind⟩ := exists_inner_of_not_isTop found rfl
    cases inner with
    | expression head isValue span place parameters =>
        obtain ⟨kind, isValueKind⟩ := Kind.exists_of_isValue isValue
        have headKind := held.below.head.kind?_eq
        rw [Node.ofToken, Node.kind, isValueKind] at headKind
        exact ⟨_, _, kind, held.children_eq, headKind, held.below.tail.head.kind?_eq⟩
    | _ => cases isKind
  case parameters =>
    intro number found
    obtain ⟨parent, subtree, held, inner, isKind⟩ := exists_inner_of_not_isTop found rfl
    cases inner with
    | paramlist place parameters => exact held.forall_children parameters.admits_kind
    | _ => cases isKind
  case leaves =>
    intro number kind found
    obtain ⟨parent, subtree, held, inner, isKind⟩ := exists_inner_of_not_isTop found rfl
    cases inner with
    | leaf token => exact held.children_eq
    | _ => cases isKind
  case rules =>
    intro number kind found isRule
    obtain ⟨rfl, -⟩ | ⟨rfl, -⟩ | ⟨parent, subtree, held, inner, rfl⟩ := exists_inner found
    · exact held.value?_eq
    · exact holds_program.value?_eq
    · cases inner with
      | leaf token => cases isRule
      | _ => exact held.value?_eq

/-- If the tokens of a program carry values that fit their kinds, then so do its leaves. -/
theorem isSound_leaf {program : Derivation .program} {finalSpan : Span}
    (sound : ∀ token ∈ program.tokens, token.word.IsSound) {number : Nat} {kind : Kind}
    (found : (ofNode (program.tree finalSpan)).kind? number = some (.leaf kind)) :
    (Word.mk kind ((ofNode (program.tree finalSpan)).value? number)).IsSound := by
  obtain ⟨parent, subtree, held, inner, isKind⟩ := exists_inner_of_not_isTop found rfl
  cases inner with
  | leaf token member =>
      obtain rfl := NodeKind.leaf.inj isKind
      rw [held.value?_eq]
      exact sound token member
  | _ => cases isKind

end Arena

/-- Whatever is parsed is the tree of a program. If the tokens were read from a text, then
the leaves hold values that fit their kinds, and the tree has a canonical text at every
indentation. -/
theorem TokenStream.parse_isProgramTree {stream : TokenStream} {tree : Node}
    (parsed : stream.parse = .ok tree) :
    (Arena.ofNode tree).IsProgramTree ∧
      ∀ source, stream = (Cursor.ofString source).significant →
        (∀ number kind, (Arena.ofNode tree).kind? number = some (.leaf kind) →
          (Word.mk kind ((Arena.ofNode tree).value? number)).IsSound) ∧
        ∀ indent, ∃ text, tree.canonical indent = .ok text := by
  constructor
  · have outcome := stream.parse_outcome
    rw [parsed] at outcome
    obtain ⟨program, after, -, -, rfl⟩ := outcome
    exact Arena.isProgramTree_ofNode program _
  · rintro source rfl
    constructor
    · obtain ⟨program, isTokens, rfl⟩ := exists_derivation_of_parse parsed
      intro number kind found
      refine Arena.isSound_leaf (fun token member => ?_) found
      exact Cursor.isSound_of_mem_significant (isTokens ▸ member)
    · intro indent
      have wellFormed := isWellFormed_of_parse parsed
      obtain ⟨span, programSpan, statements, rfl, body⟩ := Node.isWellFormed_iff.mp wellFormed
      obtain ⟨text, isText, -⟩ := Node.exists_canonical body span programSpan indent
      exact ⟨text, isText⟩

/-- Blocks, a comment and a number have their places in such a tree. -/
theorem TokenStream.parse_isProgramTree_of_block :
    ∃ tree, (Cursor.ofString "a [b (); # c\n] 7\n").significant.parse = .ok tree ∧
      tree.canonical 2 = .ok "a [\n  b ()\n  # c\n] 7\n" ∧
      (Arena.ofNode tree).IsProgramTree ∧
      (∀ number kind, (Arena.ofNode tree).kind? number = some (.leaf kind) →
        (Word.mk kind ((Arena.ofNode tree).value? number)).IsSound) ∧
      ∀ indent, ∃ text, tree.canonical indent = .ok text := by
  obtain ⟨tree, parsed, isText⟩ :
      ∃ tree, BlockData.parse "a [b (); # c\n] 7\n" = .ok tree ∧
        tree.canonical 2 = .ok "a [\n  b ()\n  # c\n] 7\n" := exists_parse_of_map (by cbv)
  have isTree := TokenStream.parse_isProgramTree parsed
  exact ⟨tree, parsed, isText, isTree.1, isTree.2 _ rfl⟩

end BlockData
