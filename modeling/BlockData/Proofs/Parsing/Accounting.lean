import BlockData.Node.Canonical
import BlockData.Proofs.Grammar.Brackets
import BlockData.Proofs.Parsing.Source
import BlockData.Proofs.Tree.PreOrder
import Mathlib

/-!
# Tokens and the nodes they leave

Values, comments and opening brackets leave one node each in the tree of a program: a leaf,
or a block that reaches up to the closing bracket. Nothing else leaves one, and the other
nodes stand for rules. So in a walk over the tree the leaves and blocks come one by one as
their tokens come in the text, by induction on the derivation with whatever stands behind
it (`Derivation.accountsFor`).
-/

namespace BlockData

/-- Whether a token of a kind leaves a node of its own in the tree. -/
def Kind.leavesNode : Kind → Bool
  | .value _ => true
  | .comment => true
  | .opening _ => true
  | _ => false

/-- Whether a node stands for a token: a leaf for all of it, and a block for its opening
bracket. -/
def NodeKind.isLeftByToken : NodeKind → Bool
  | .leaf _ => true
  | .block _ => true
  | _ => false

/-- An entry is what a token leaves in the tree, if `behind` is what stands behind it. -/
inductive Entry.IsLeftBy (entry : Entry) (token : Token) (behind : List Token) : Prop where
  /-- A leaf has the kind, the value and the place of its token. -/
  | leaf (isLeaf : token.kind.isValue = true ∨ token.kind = .comment)
      (kind : entry.kind = .leaf token.kind) (value : entry.value = token.value)
      (span : entry.span = token.span)
  /-- A block stands where its opening bracket stands, and reaches up to the bracket that
  closes it. -/
  | block (delimiter : Delimiter) (closed : Token) (opens : token.kind = .opening delimiter)
      (isClosed : closingBracket? 0 behind = some closed)
      (closes : closed.kind = .closing delimiter) (kind : entry.kind = .block delimiter)
      (value : entry.value = none)
      (span : entry.span = { token.span with stop := closed.span.stop })

/-- Tokens, each with those behind it. -/
def withBehind : List Token → List (Token × List Token)
  | [] => []
  | token :: behind => (token, behind) :: withBehind behind

/-- The leaves and blocks among some entries are one by one what the values, comments and
opening brackets among some tokens leave. -/
def AccountsFor (entries : List Entry) (tokens : List Token) : Prop :=
  List.Forall₂ (fun entry place => entry.IsLeftBy place.1 place.2)
    (entries.filter fun entry => entry.kind.isLeftByToken)
    ((withBehind tokens).filter fun place => place.1.kind.leavesNode)

/-- Every value leaves a node. -/
theorem Kind.leavesNode_of_isValue {kind : Kind} (isValue : kind.isValue = true) :
    kind.leavesNode = true := by
  cases kind <;> first | rfl | cases isValue

/-- No terminator leaves a node. -/
theorem Kind.leavesNode_of_isTerminator {kind : Kind} (isTerminator : kind.isTerminator = true) :
    kind.leavesNode = false := by
  cases kind <;> first | rfl | cases isTerminator

/-- What a token leaves is a leaf or a block, and the token one that leaves a node. -/
theorem Entry.IsLeftBy.kinds {entry : Entry} {token : Token} {behind : List Token}
    (isLeft : entry.IsLeftBy token behind) :
    entry.kind.isLeftByToken = true ∧ token.kind.leavesNode = true := by
  cases isLeft with
  | leaf isLeaf kind =>
      refine ⟨by rw [kind]; rfl, ?_⟩
      rcases isLeaf with isValue | isComment
      · exact Kind.leavesNode_of_isValue isValue
      · rw [isComment]
        rfl
  | block delimiter closed opens isClosed closes kind =>
      exact ⟨by rw [kind]; rfl, by rw [opens]; rfl⟩

namespace AccountsFor

variable {entry : Entry} {entries : List Entry} {token : Token} {behind : List Token}

/-- A token in front adds what it leaves. -/
theorem left (isLeft : entry.IsLeftBy token behind) (others : AccountsFor entries behind) :
    AccountsFor (entry :: entries) (token :: behind) := by
  simp only [AccountsFor, withBehind, List.filter_cons, isLeft.kinds, if_true]
  exact .cons isLeft others

/-- The node of a rule stands for no token. -/
theorem rule (isRule : entry.kind.isLeftByToken = false) (others : AccountsFor entries behind) :
    AccountsFor (entry :: entries) behind := by
  simpa only [AccountsFor, List.filter_cons, isRule, Bool.false_eq_true, if_false] using others

/-- A token that leaves no node adds nothing. -/
theorem skip (leavesNone : token.kind.leavesNode = false) (others : AccountsFor entries behind) :
    AccountsFor entries (token :: behind) := by
  simpa only [AccountsFor, withBehind, List.filter_cons, leavesNone, Bool.false_eq_true, if_false]
    using others

end AccountsFor

/-- The nodes of a derivation are what its tokens leave, whatever stands behind them. -/
theorem Derivation.accountsFor {phrase : Phrase} (derivation : Derivation phrase)
    (parent number : Nat) {entries : List Entry} {behind : List Token}
    (others : AccountsFor entries behind) :
    AccountsFor (Node.entriesAll parent number derivation.nodes ++ entries)
      (derivation.tokens ++ behind) := by
  induction derivation generalizing parent number entries behind with
  | emptyProgram => exact others
  | program first rest firstHypothesis restHypothesis =>
      rw [nodes, tokens, Node.entriesAll_append, List.append_assoc, List.append_assoc]
      exact firstHypothesis _ _ (restHypothesis _ _ others)
  | expressionStatement child inductionHypothesis => exact inductionHypothesis _ _ others
  | blockStatement child inductionHypothesis => exact inductionHypothesis _ _ others
  | blankStatement child =>
      cases child with
      | blank terminator isTerminator =>
          exact .skip (Kind.leavesNode_of_isTerminator isTerminator) others
  | comment token isComment => exact .left (.leaf (.inr isComment) rfl rfl rfl) others
  | expression head isValue parameters terminator isTerminator inductionHypothesis =>
      rw [nodes, tokens, List.cons_append, List.append_assoc, List.singleton_append]
      simp only [Node.entriesAll, Node.entries, Node.ofToken, List.append_nil, List.cons_append,
        List.nil_append]
      have ended : AccountsFor entries (terminator :: behind) :=
        .skip (Kind.leavesNode_of_isTerminator isTerminator) others
      -- neither the expression nor its list of parameters stands for a token
      refine .rule rfl (.left (.leaf (.inl isValue) rfl rfl rfl) ?_)
      exact .rule rfl (inductionHypothesis _ _ ended)
  | emptyParamlist => exact others
  | paramlist first rest firstHypothesis restHypothesis =>
      rw [nodes, tokens, Node.entriesAll_append, List.append_assoc, List.append_assoc]
      exact firstHypothesis _ _ (restHypothesis _ _ others)
  | value token isValue => exact .left (.leaf (.inl isValue) rfl rfl rfl) others
  | blockParameter child inductionHypothesis => exact inductionHypothesis _ _ others
  | block delimiter opened opens inner closed closes inductionHypothesis =>
      rw [nodes, tokens, List.cons_append, List.append_assoc, List.singleton_append]
      simp only [Node.entriesAll, Node.entries, List.append_nil, List.cons_append]
      -- the closing bracket leaves no node, but the opening one is matched with it
      have ended : AccountsFor entries (closed :: behind) := .skip (by rw [closes]; rfl) others
      have isClosed := closingBracket?_block inner closes behind
      exact .left (.block delimiter closed opens isClosed closes rfl rfl rfl)
        (inductionHypothesis _ _ ended)
  | blank terminator isTerminator =>
      exact .skip (Kind.leavesNode_of_isTerminator isTerminator) others

/-- The entries of the tree of a program are what its tokens leave. -/
theorem Derivation.accountsFor_tree (program : Derivation .program) (finalSpan : Span) :
    AccountsFor ((program.tree finalSpan).entries none 0)
      (program.tokens ++ [.atEnd finalSpan]) := by
  have atEnd : AccountsFor [] [.atEnd finalSpan] := .skip rfl .nil
  have below := program.accountsFor 1 2 atEnd
  simp only [tree, Node.entries, Node.entriesAll, List.append_nil] at below ⊢
  exact .rule rfl (.rule rfl below)

/-- The grammar sees every bracket. -/
theorem Token.isSeen_of_isBracket (token : Token) (isBracket : token.kind.isBracket = true) :
    token.isSeen = true := by
  obtain ⟨kind, value, span⟩ := token
  cases kind <;> first | rfl | cases isBracket

/-- What the grammar never sees leaves no node. -/
theorem Token.leavesNode_of_unseen {token : Token} (unseen : ¬token.isSeen = true) :
    token.kind.leavesNode = false := by
  obtain ⟨kind, value, span⟩ := token
  cases kind <;> first | rfl | exact absurd rfl unseen

/-- What the grammar never sees is no bracket, so a token leaves the same without it. -/
theorem Entry.isLeftBy_filter {entry : Entry} {token : Token} {behind : List Token} :
    entry.IsLeftBy token (behind.filter Token.isSeen) ↔ entry.IsLeftBy token behind := by
  have sameBracket := closingBracket?_filter Token.isSeen_of_isBracket 0 behind
  constructor
  · intro isLeft
    cases isLeft with
    | leaf isLeaf kind value span => exact .leaf isLeaf kind value span
    | block delimiter closed opens isClosed closes kind value span =>
        exact .block delimiter closed opens (sameBracket.symm.trans isClosed) closes kind value span
  · intro isLeft
    cases isLeft with
    | leaf isLeaf kind value span => exact .leaf isLeaf kind value span
    | block delimiter closed opens isClosed closes kind value span =>
        exact .block delimiter closed opens (sameBracket.trans isClosed) closes kind value span

/-- Without what the grammar never sees the same tokens leave nodes. -/
theorem withBehind_filter (tokens : List Token) :
    (withBehind (tokens.filter Token.isSeen)).filter (fun place => place.1.kind.leavesNode) =
      ((withBehind tokens).filter fun place => place.1.kind.leavesNode).map
        fun place => (place.1, place.2.filter Token.isSeen) := by
  induction tokens with
  | nil => rfl
  | cons token behind inductionHypothesis =>
      by_cases seen : token.isSeen = true
      · rw [List.filter_cons_of_pos seen, withBehind, withBehind, List.filter_cons,
          List.filter_cons, inductionHypothesis]
        split <;> rfl
      · rw [List.filter_cons_of_neg seen, withBehind, inductionHypothesis, List.filter_cons,
          Token.leavesNode_of_unseen seen]
        rfl

/-- What the grammar never sees makes no difference to what is accounted for. -/
theorem accountsFor_filter {entries : List Entry} {tokens : List Token} :
    AccountsFor entries (tokens.filter Token.isSeen) ↔ AccountsFor entries tokens := by
  rw [AccountsFor, withBehind_filter, List.forall₂_map_right_iff]
  simp only [Entry.isLeftBy_filter, AccountsFor]

/-- Nothing is lost, doubled or moved between a text and its tree. The leaves and blocks in
a walk over the tree are one by one what the values, comments and opening brackets of the
text leave: a leaf has the kind, the value and the place of its token, and a block the
style and the start of its opening bracket and the end of the bracket that closes it. -/
theorem parse_accountsFor {source : String} {tree : Node} (parsed : parse source = .ok tree) :
    AccountsFor ((Arena.ofNode tree).visited Arena.root) (Cursor.ofString source).tokens := by
  obtain ⟨program, isTokens, rfl⟩ := exists_derivation_of_parse parsed
  rw [← accountsFor_filter, Arena.visited_ofNode_root, Cursor.filter_tokens, isTokens]
  exact program.accountsFor_tree _

/-- Nested blocks, comments, white space and blank statements are accounted for. -/
theorem parse_accountsFor_nested_blocks :
    ∃ tree, parse "a [# b\n (7;);\n]\n" = .ok tree ∧
      tree.canonical 2 = .ok "a [\n  # b\n  (\n    7\n  )\n]\n" ∧
      AccountsFor ((Arena.ofNode tree).visited Arena.root)
        (Cursor.ofString "a [# b\n (7;);\n]\n").tokens := by
  obtain ⟨tree, parsed, isText⟩ : ∃ tree, parse "a [# b\n (7;);\n]\n" = .ok tree ∧
      tree.canonical 2 = .ok "a [\n  # b\n  (\n    7\n  )\n]\n" :=
    exists_parse_of_map (by cbv)
  exact ⟨tree, parsed, isText, parse_accountsFor parsed⟩

end BlockData
