import BlockData.Proofs.Grammar.Nesting
import BlockData.Proofs.Grammar.Unambiguous
import BlockData.Proofs.Tree.Places

/-!
# Tokens that the grammar does not tell apart

The grammar looks at the kinds of tokens only, and takes the two terminators for one
(`Kind.merged`). Tokens of the same merged kinds stand in the same places
(`Nesting.afterAll?_congr`) and have derivations of the same build: what the nodes show
through any view of their values is the same if the tokens show the same
(`Derivation.exists_alike`). The leaves of a derivation are its values and comments, in
the order of the tokens (`Derivation.leavesAll_nodes`).
-/

namespace BlockData

namespace Kind

/-- The kind with the two terminators taken for one. -/
def merged : Kind → Kind
  | .terminator _ => .terminator .newline
  | kind => kind

/-- Whether a token of a kind is kept in the tree as a leaf. -/
def isKept : Kind → Bool
  | .value _ => true
  | .comment => true
  | _ => false

/-- What is taken for a terminator is one. -/
theorem isTerminator_of_merged {kind other : Kind} (same : kind.merged = other.merged)
    (isTerminator : other.isTerminator = true) : kind.isTerminator = true := by
  cases other with
  | terminator =>
      cases kind with
      | terminator => rfl
      | _ => cases same
  | _ => cases isTerminator

/-- The two terminators are no leaves, so nothing is lost by taking them for one. -/
theorem isKept_merged (kind : Kind) : kind.merged.isKept = kind.isKept := by
  cases kind <;> rfl

/-- All kinds but the two terminators are told apart. -/
theorem eq_of_merged {kind other : Kind} (same : kind.merged = other.merged)
    (noTerminator : other.isTerminator = false) : kind = other := by
  cases other with
  | terminator => cases noTerminator
  | _ =>
      cases kind with
      | terminator => cases same
      | _ => exact same

/-- Values are told apart. -/
theorem eq_of_merged_of_isValue {kind other : Kind} (same : kind.merged = other.merged)
    (isValue : other.isValue = true) : kind = other := by
  refine eq_of_merged same ?_
  cases other <;> first | rfl | cases isValue

/-- Every value is kept. -/
theorem isKept_of_isValue {kind : Kind} (isValue : kind.isValue = true) : kind.isKept = true := by
  cases kind <;> first | rfl | cases isValue

/-- No terminator is kept. -/
theorem isKept_of_isTerminator {kind : Kind} (isTerminator : kind.isTerminator = true) :
    kind.isKept = false := by
  cases kind <;> first | rfl | cases isTerminator

end Kind

/-- The kind of a token with the two terminators taken for one. -/
def Token.mergedKind (token : Token) : Kind :=
  token.kind.merged

/-- What waits behind a token does not depend on which terminator it is. -/
theorem Nesting.after?_merged (nesting : Nesting) (kind : Kind) :
    nesting.after? kind.merged = nesting.after? kind := by
  cases kind <;> rfl

/-- What waits behind tokens does not depend on which terminators they are. -/
theorem Nesting.afterAll?_congr {nesting : Nesting} {tokens others : List Token}
    (same : tokens.map Token.mergedKind = others.map Token.mergedKind) :
    nesting.afterAll? tokens = nesting.afterAll? others := by
  induction tokens generalizing nesting others with
  | nil => rw [List.map_eq_nil_iff.mp same.symm]
  | cons token tokens inductionHypothesis =>
      obtain ⟨other, others, rfl, sameKind, sameOthers⟩ := List.map_eq_cons_iff.mp same.symm
      have sameNext : nesting.after? token.kind = nesting.after? other.kind := by
        rw [← after?_merged, ← after?_merged _ other.kind]
        exact congrArg nesting.after? sameKind.symm
      rw [afterAll?_cons, afterAll?_cons, sameNext]
      exact congrArg _ (funext fun next => inductionHypothesis sameOthers.symm)

namespace Node

mutual

/-- The tree without places and with its values seen through a view. -/
def viewed (view : Option Value → Option Value) : Node → Node
  | .node kind value _ children => .node kind (view value) Span.origin (viewedAll view children)

/-- The trees without places and with their values seen through a view. -/
def viewedAll (view : Option Value → Option Value) : List Node → List Node
  | [] => []
  | tree :: trees => tree.viewed view :: viewedAll view trees

end

mutual

/-- The leaves of a tree as tokens, from left to right. -/
def leaves : Node → List Token
  | .node kind value span children =>
      match kind with
      | .leaf kind => ⟨kind, value, span⟩ :: leavesAll children
      | _ => leavesAll children

/-- The leaves of some trees as tokens, from left to right. -/
def leavesAll : List Node → List Token
  | [] => []
  | tree :: trees => tree.leaves ++ leavesAll trees

end

/-- The tree without places and values: its kinds and the order of its children. -/
def skeleton (tree : Node) : Node :=
  tree.viewed fun _ => none

/-- The views of neighbouring trees stand side by side. -/
theorem viewedAll_append (view : Option Value → Option Value) (first second : List Node) :
    viewedAll view (first ++ second) = viewedAll view first ++ viewedAll view second := by
  induction first with
  | nil => rfl
  | cons tree trees inductionHypothesis =>
      rw [List.cons_append, viewedAll, inductionHypothesis, viewedAll, List.cons_append]

/-- The leaves of neighbouring trees stand side by side. -/
theorem leavesAll_append (first second : List Node) :
    leavesAll (first ++ second) = leavesAll first ++ leavesAll second := by
  induction first with
  | nil => rfl
  | cons tree trees inductionHypothesis =>
      rw [List.cons_append, leavesAll, inductionHypothesis, leavesAll, List.append_assoc]

mutual

/-- A tree without places is the tree with all of its values in view. -/
theorem viewed_id : ∀ tree : Node, tree.viewed id = tree.unplaced
  | .node kind value span children => by
      rw [viewed, unplaced, viewedAll_id children]
      rfl

/-- Trees without places are the trees with all of their values in view. -/
theorem viewedAll_id : ∀ trees : List Node, viewedAll id trees = unplacedAll trees
  | [] => rfl
  | tree :: trees => by rw [viewedAll, unplacedAll, viewed_id tree, viewedAll_id trees]

end

end Node

/-- What the grammar and a view of values show of a token. -/
def Token.shown (view : Option Value → Option Value) (token : Token) : Kind × Option Value :=
  (token.mergedKind, view token.value)

/-- What a leaf shows is what its token shows, if it is no terminator. -/
theorem Node.viewed_ofToken {view : Option Value → Option Value} {token other : Token}
    (same : token.shown view = other.shown view) (kind : token.kind = other.kind) :
    (Node.ofToken token).viewed view = (Node.ofToken other).viewed view := by
  rw [ofToken, ofToken, viewed, viewed, kind, (Prod.mk.inj same).2]

namespace Derivation

/-- Tokens that show the same as those of a derivation have one of their own, whose nodes
show the same. -/
theorem exists_alike {phrase : Phrase} (derivation : Derivation phrase)
    {view : Option Value → Option Value} {others : List Token}
    (alike : others.map (Token.shown view) = derivation.tokens.map (Token.shown view)) :
    ∃ other : Derivation phrase, other.tokens = others ∧
      Node.viewedAll view other.nodes = Node.viewedAll view derivation.nodes := by
  induction derivation generalizing others with
  | emptyProgram => exact ⟨.emptyProgram, (List.map_eq_nil_iff.mp alike).symm, rfl⟩
  | program first rest firstHypothesis restHypothesis =>
      rw [tokens, List.map_append, List.map_eq_append_iff] at alike
      obtain ⟨left, right, rfl, firstAlike, restAlike⟩ := alike
      obtain ⟨first', rfl, firstNodes⟩ := firstHypothesis firstAlike
      obtain ⟨rest', rfl, restNodes⟩ := restHypothesis restAlike
      refine ⟨.program first' rest', rfl, ?_⟩
      rw [nodes, nodes, Node.viewedAll_append, firstNodes, restNodes, Node.viewedAll_append]
  | expressionStatement child inductionHypothesis =>
      obtain ⟨child', tokens', nodes'⟩ := inductionHypothesis alike
      exact ⟨.expressionStatement child', tokens', nodes'⟩
  | blockStatement child inductionHypothesis =>
      obtain ⟨child', tokens', nodes'⟩ := inductionHypothesis alike
      exact ⟨.blockStatement child', tokens', nodes'⟩
  | blankStatement child inductionHypothesis =>
      obtain ⟨child', tokens', -⟩ := inductionHypothesis alike
      exact ⟨.blankStatement child', tokens', rfl⟩
  | comment token isComment =>
      obtain ⟨other, rfl, same⟩ := List.map_eq_singleton_iff.mp alike
      have kind := Kind.eq_of_merged (Prod.mk.inj same).1 (by rw [isComment]; rfl)
      refine ⟨.comment other (kind.trans isComment), rfl, ?_⟩
      simp only [nodes, Node.viewedAll, Node.viewed_ofToken same kind]
  | expression head isValue parameters terminator isTerminator inductionHypothesis =>
      obtain ⟨head', rest, rfl, sameHead, restAlike⟩ := List.map_eq_cons_iff.mp alike
      rw [List.map_append, List.map_eq_append_iff] at restAlike
      obtain ⟨inner, last, rfl, parametersAlike, lastAlike⟩ := restAlike
      obtain ⟨terminator', rfl, sameLast⟩ := List.map_eq_singleton_iff.mp lastAlike
      obtain ⟨parameters', rfl, parametersNodes⟩ := inductionHypothesis parametersAlike
      have kind := Kind.eq_of_merged_of_isValue (Prod.mk.inj sameHead).1 isValue
      have isTerminator' := Kind.isTerminator_of_merged (Prod.mk.inj sameLast).1 isTerminator
      refine ⟨.expression head' (by rwa [kind]) parameters' terminator' isTerminator', rfl, ?_⟩
      simp only [nodes, Node.viewedAll, Node.viewed, parametersNodes,
        Node.viewed_ofToken sameHead kind]
  | emptyParamlist => exact ⟨.emptyParamlist, (List.map_eq_nil_iff.mp alike).symm, rfl⟩
  | paramlist first rest firstHypothesis restHypothesis =>
      rw [tokens, List.map_append, List.map_eq_append_iff] at alike
      obtain ⟨left, right, rfl, firstAlike, restAlike⟩ := alike
      obtain ⟨first', rfl, firstNodes⟩ := firstHypothesis firstAlike
      obtain ⟨rest', rfl, restNodes⟩ := restHypothesis restAlike
      refine ⟨.paramlist first' rest', rfl, ?_⟩
      rw [nodes, nodes, Node.viewedAll_append, firstNodes, restNodes, Node.viewedAll_append]
  | value token isValue =>
      obtain ⟨other, rfl, same⟩ := List.map_eq_singleton_iff.mp alike
      have kind := Kind.eq_of_merged_of_isValue (Prod.mk.inj same).1 isValue
      refine ⟨.value other (by rwa [kind]), rfl, ?_⟩
      simp only [nodes, Node.viewedAll, Node.viewed_ofToken same kind]
  | blockParameter child inductionHypothesis =>
      obtain ⟨child', tokens', nodes'⟩ := inductionHypothesis alike
      exact ⟨.blockParameter child', tokens', nodes'⟩
  | block delimiter opened opens inner closed closes inductionHypothesis =>
      obtain ⟨opened', rest, rfl, sameOpened, restAlike⟩ := List.map_eq_cons_iff.mp alike
      rw [List.map_append, List.map_eq_append_iff] at restAlike
      obtain ⟨middle, last, rfl, innerAlike, lastAlike⟩ := restAlike
      obtain ⟨closed', rfl, sameClosed⟩ := List.map_eq_singleton_iff.mp lastAlike
      obtain ⟨inner', rfl, innerNodes⟩ := inductionHypothesis innerAlike
      have opens' := Kind.eq_of_merged (Prod.mk.inj sameOpened).1 (by rw [opens]; rfl)
      have closes' := Kind.eq_of_merged (Prod.mk.inj sameClosed).1 (by rw [closes]; rfl)
      refine ⟨.block delimiter opened' (opens'.trans opens) inner' closed' (closes'.trans closes),
        rfl, ?_⟩
      simp only [nodes, Node.viewedAll, Node.viewed, innerNodes]
  | blank terminator isTerminator =>
      obtain ⟨other, rfl, same⟩ := List.map_eq_singleton_iff.mp alike
      have isTerminator' := Kind.isTerminator_of_merged (Prod.mk.inj same).1 isTerminator
      exact ⟨.blank other isTerminator', rfl, rfl⟩

/-- The nodes of programs whose tokens show the same show the same. -/
theorem viewedAll_nodes_congr {first second : Derivation .program}
    {view : Option Value → Option Value}
    (alike : first.tokens.map (Token.shown view) = second.tokens.map (Token.shown view)) :
    Node.viewedAll view first.nodes = Node.viewedAll view second.nodes := by
  obtain ⟨other, sameTokens, sameNodes⟩ := second.exists_alike alike
  rw [← sameNodes, eq_of_tokens sameTokens]

/-- The leaves of a derivation are its values and comments. -/
theorem leavesAll_nodes {phrase : Phrase} (derivation : Derivation phrase) :
    Node.leavesAll derivation.nodes = derivation.tokens.filter fun token => token.kind.isKept := by
  induction derivation with
  | emptyProgram => rfl
  | program first rest firstHypothesis restHypothesis =>
      rw [nodes, tokens, Node.leavesAll_append, firstHypothesis, restHypothesis, List.filter_append]
  | expressionStatement child inductionHypothesis => exact inductionHypothesis
  | blockStatement child inductionHypothesis => exact inductionHypothesis
  | blankStatement child =>
      cases child with
      | blank terminator isTerminator =>
          simp [nodes, tokens, Node.leavesAll, Kind.isKept_of_isTerminator isTerminator]
  | comment token isComment =>
      have kept : token.kind.isKept = true := by rw [isComment]; rfl
      simp [nodes, tokens, Node.leavesAll, Node.leaves, Node.ofToken, kept]
  | expression head isValue parameters terminator isTerminator inductionHypothesis =>
      simp [nodes, tokens, Node.leavesAll, Node.leaves, Node.ofToken, inductionHypothesis,
        Kind.isKept_of_isValue isValue, Kind.isKept_of_isTerminator isTerminator]
  | emptyParamlist => rfl
  | paramlist first rest firstHypothesis restHypothesis =>
      rw [nodes, tokens, Node.leavesAll_append, firstHypothesis, restHypothesis, List.filter_append]
  | value token isValue =>
      simp [nodes, tokens, Node.leavesAll, Node.leaves, Node.ofToken,
        Kind.isKept_of_isValue isValue]
  | blockParameter child inductionHypothesis => exact inductionHypothesis
  | block delimiter opened opens inner closed closes inductionHypothesis =>
      simp [nodes, tokens, Node.leavesAll, Node.leaves, inductionHypothesis, opens, closes,
        Kind.isKept]
  | blank terminator isTerminator =>
      simp [nodes, tokens, Node.leavesAll, Kind.isKept_of_isTerminator isTerminator]

end Derivation

end BlockData
