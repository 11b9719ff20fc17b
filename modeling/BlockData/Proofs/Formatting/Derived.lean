import BlockData.Proofs.Formatting.Written
import BlockData.Proofs.Parsing.Acceptance
import BlockData.Proofs.Parsing.Source

/-!
# Derivations of written trees

Well-formed trees and derivations meet from both sides. The nodes of a derivation of sound
tokens are the body of a well-formed tree, so whatever is parsed from a text is well
formed. And tokens with the words of a body have a derivation whose nodes are that body,
apart from places.
-/

namespace BlockData

/-- The phrase whose nodes are a body. -/
@[reducible] def Part.phrase : Part → Phrase
  | .statements => .program
  | .parameters => .paramlist

/-- What the nodes of a phrase are to bodies: a whole body, or something that may be put
in front of one. -/
def Phrase.Grows : Phrase → List Node → Prop
  | .program, nodes => IsBody .statements nodes
  | .paramlist, nodes => IsBody .parameters nodes
  | .parameter, nodes => ∀ others, IsBody .parameters others → IsBody .parameters (nodes ++ others)
  | .block, nodes => ∀ part others, IsBody part others → IsBody part (nodes ++ others)
  | _, nodes => ∀ others, IsBody .statements others → IsBody .statements (nodes ++ others)

/-- What is a value is of one of the kinds of values. -/
theorem Kind.exists_of_isValue {kind : Kind} (isValue : kind.isValue = true) :
    ∃ valueKind, kind = .value valueKind := by
  cases kind <;> first | exact ⟨_, rfl⟩ | cases isValue

/-- The leaf of a sound token of a value. -/
theorem Token.exists_leaf_of_isValue {token : Token} (isValue : token.kind.isValue = true)
    (sound : token.word.IsSound) :
    ∃ kind : ValueKind, token.kind = .value kind ∧ kind.admits token.value = true := by
  obtain ⟨kind, isKind⟩ := Kind.exists_of_isValue isValue
  rw [Token.word, isKind] at sound
  exact ⟨kind, isKind, sound⟩

namespace Derivation

/-- The nodes of a derivation of sound tokens make up bodies. -/
theorem grows {phrase : Phrase} (derivation : Derivation phrase)
    (sound : ∀ token ∈ derivation.tokens, token.word.IsSound) : phrase.Grows derivation.nodes := by
  induction derivation with
  | emptyProgram => exact .nil _
  | program first others firstHypothesis othersHypothesis =>
      simp only [tokens, List.mem_append] at sound
      have firstGrows := firstHypothesis fun token member => sound token (.inl member)
      have othersGrow := othersHypothesis fun token member => sound token (.inr member)
      exact firstGrows _ othersGrow
  | expressionStatement child inductionHypothesis => exact inductionHypothesis sound
  | blockStatement child inductionHypothesis => exact inductionHypothesis sound .statements
  | blankStatement child inductionHypothesis => exact fun others behind => behind
  | comment token isComment =>
      intro others behind
      have soundToken := sound token List.mem_cons_self
      obtain ⟨kind, value, span⟩ := token
      cases isComment
      obtain ⟨content, rfl, isText⟩ := soundToken
      exact .comment isText behind
  | expression head isValue parameters terminator isTerminator inductionHypothesis =>
      intro others behind
      simp only [tokens, List.mem_cons, List.mem_append] at sound
      obtain ⟨kind, isKind, admitted⟩ :=
        Token.exists_leaf_of_isValue isValue (sound head (.inl rfl))
      have below := inductionHypothesis fun token member => sound token (.inr (.inl member))
      simp only [nodes, Node.ofToken, isKind]
      exact .expression admitted below behind
  | emptyParamlist => exact .nil _
  | paramlist first others firstHypothesis othersHypothesis =>
      simp only [tokens, List.mem_append] at sound
      have firstGrows := firstHypothesis fun token member => sound token (.inl member)
      have othersGrow := othersHypothesis fun token member => sound token (.inr member)
      exact firstGrows _ othersGrow
  | value token isValue =>
      intro others behind
      obtain ⟨kind, isKind, admitted⟩ :=
        Token.exists_leaf_of_isValue isValue (sound token List.mem_cons_self)
      simp only [nodes, Node.ofToken, isKind]
      exact .value admitted behind
  | blockParameter child inductionHypothesis => exact inductionHypothesis sound .parameters
  | block delimiter opened opens inner closed closes inductionHypothesis =>
      intro part others behind
      simp only [tokens, List.mem_cons, List.mem_append] at sound
      have below := inductionHypothesis fun token member => sound token (.inr (.inl member))
      exact .block below behind
  | blank terminator isTerminator => exact fun others behind => behind

/-- The tree of a program of sound tokens is well formed. -/
theorem isWellFormed_tree (program : Derivation .program) (finalSpan : Span)
    (sound : ∀ token ∈ program.tokens, token.word.IsSound) :
    (program.tree finalSpan).isWellFormed = true :=
  Node.isWellFormed_iff.mpr ⟨_, _, _, rfl, program.grows sound⟩

end Derivation

/-- Whatever is parsed from a text is well formed. -/
theorem isWellFormed_of_parse {source : String} {tree : Node} (parsed : parse source = .ok tree) :
    tree.isWellFormed = true := by
  obtain ⟨program, isTokens, rfl⟩ := exists_derivation_of_parse parsed
  refine program.isWellFormed_tree _ fun token member => ?_
  exact Cursor.isSound_of_mem_significant (isTokens ▸ member)

/-- Tokens that start with a word start with a token of that word. -/
theorem exists_of_map_word_cons {tokens : List Token} {word : Word} {others : List Word}
    (spelled : tokens.map Token.word = word :: others) :
    ∃ span behind, tokens = ⟨word.kind, word.value, span⟩ :: behind ∧
      behind.map Token.word = others := by
  obtain ⟨⟨kind, value, span⟩, behind, rfl, rfl, spelledBehind⟩ := List.map_eq_cons_iff.mp spelled
  exact ⟨span, behind, rfl, spelledBehind⟩

/-- The token that ends a line at some place. -/
def lineEndToken (span : Span) : Token :=
  ⟨.terminator .newline, none, span⟩

/-- The end of a line behind what ends without a terminator is a blank statement. -/
def Derivation.lineEnd (span : Span) : Derivation .statement :=
  .blankStatement (.blank (lineEndToken span) rfl)

/-- Tokens with the words of a block have a derivation of the block, if those of its
statements have one. -/
theorem exists_block {delimiter : Delimiter} {span : Span} {children : List Node}
    (below : ∀ {tokens : List Token}, tokens.map Token.word = Node.writtenLines children →
      ∃ program : Derivation .program, program.tokens = tokens ∧
        Node.unplacedAll program.nodes = Node.unplacedAll children)
    {tokens : List Token}
    (spelled : tokens.map Token.word = (Node.node (.block delimiter) none span children).written) :
    ∃ block : Derivation .block, block.tokens = tokens ∧
      Node.unplacedAll block.nodes =
        [(Node.node (.block delimiter) none span children).unplaced] := by
  rw [Node.written] at spelled
  obtain ⟨openSpan, behind, rfl, spelledBehind⟩ := exists_of_map_word_cons spelled
  obtain ⟨inside, last, rfl, spelledInside, spelledLast⟩ := List.map_eq_append_iff.mp spelledBehind
  obtain ⟨closeSpan, none, rfl, spelledNone⟩ := exists_of_map_word_cons spelledLast
  obtain rfl := List.map_eq_nil_iff.mp spelledNone
  have inner : ∃ program : Derivation .program, program.tokens = inside ∧
      Node.unplacedAll program.nodes = Node.unplacedAll children := by
    by_cases empty : children = []
    · subst empty
      obtain rfl := List.map_eq_nil_iff.mp spelledInside
      exact ⟨.emptyProgram, rfl, rfl⟩
    · rw [if_neg (by simpa using empty)] at spelledInside
      obtain ⟨lineSpan, lines, rfl, spelledLines⟩ := exists_of_map_word_cons spelledInside
      obtain ⟨program, rfl, same⟩ := below spelledLines
      -- the line end behind the bracket is a blank statement
      exact ⟨.program (.lineEnd lineSpan) program, rfl, same⟩
  obtain ⟨program, rfl, same⟩ := inner
  refine ⟨.block delimiter ⟨.opening delimiter, none, openSpan⟩ rfl program
    ⟨.closing delimiter, none, closeSpan⟩ rfl, rfl, ?_⟩
  simp only [Derivation.nodes, Node.unplacedAll, Node.unplaced, same]

/-- Tokens with the words of a body have a derivation of the body. -/
theorem IsBody.exists_derivation {part : Part} {nodes : List Node} (body : IsBody part nodes)
    {tokens : List Token} (spelled : tokens.map Token.word = part.written nodes) :
    ∃ derivation : Derivation part.phrase, derivation.tokens = tokens ∧
      Node.unplacedAll derivation.nodes = Node.unplacedAll nodes := by
  induction body generalizing tokens with
  | nil part =>
      cases part with
      | statements =>
          obtain rfl := List.map_eq_nil_iff.mp spelled
          exact ⟨.emptyProgram, rfl, rfl⟩
      | parameters =>
          obtain rfl := List.map_eq_nil_iff.mp spelled
          exact ⟨.emptyParamlist, rfl, rfl⟩
  | @expression kind value _ _ _ _ _ admitted below behind belowHypothesis behindHypothesis =>
      simp only [Part.written, Node.writtenLines, Node.written, Node.writtenAll,
        List.append_nil] at spelled
      obtain ⟨front, back, rfl, spelledFront, spelledBack⟩ := List.map_eq_append_iff.mp spelled
      obtain ⟨headSpan, listed, rfl, spelledListed⟩ := exists_of_map_word_cons spelledFront
      obtain ⟨lineSpan, lines, rfl, spelledLines⟩ := exists_of_map_word_cons spelledBack
      obtain ⟨parameters, rfl, sameParameters⟩ := belowHypothesis spelledListed
      obtain ⟨others, rfl, sameOthers⟩ := behindHypothesis spelledLines
      refine ⟨.program (.expressionStatement (.expression ⟨.value kind, value, headSpan⟩ rfl
        parameters (lineEndToken lineSpan) rfl)) others, ?_, ?_⟩
      · simp [Derivation.tokens, lineEndToken, Word.lineEnd]
      · simp [Derivation.nodes, Node.ofToken, Node.unplacedAll, Node.unplaced, sameParameters,
          sameOthers]
  | @comment content _ _ isComment behind behindHypothesis =>
      obtain ⟨span, back, rfl, spelledBack⟩ := exists_of_map_word_cons spelled
      obtain ⟨lineSpan, lines, rfl, spelledLines⟩ := exists_of_map_word_cons spelledBack
      obtain ⟨others, rfl, sameOthers⟩ := behindHypothesis spelledLines
      refine ⟨.program (.comment ⟨.comment, some (.text content), span⟩ rfl)
        (.program (.lineEnd lineSpan) others), rfl, ?_⟩
      simp [Derivation.nodes, Derivation.lineEnd, Node.ofToken, Node.unplacedAll, Node.unplaced,
        sameOthers]
  | @block part delimiter span children others below behind belowHypothesis behindHypothesis =>
      cases part with
      | statements =>
          obtain ⟨front, back, rfl, spelledFront, spelledBack⟩ := List.map_eq_append_iff.mp spelled
          obtain ⟨block, rfl, sameBlock⟩ := exists_block belowHypothesis spelledFront
          obtain ⟨lineSpan, lines, rfl, spelledLines⟩ := exists_of_map_word_cons spelledBack
          obtain ⟨others, rfl, sameOthers⟩ := behindHypothesis spelledLines
          refine ⟨.program (.blockStatement block) (.program (.lineEnd lineSpan) others), rfl, ?_⟩
          simp [Derivation.nodes, Derivation.lineEnd, Node.unplacedAll, sameBlock, sameOthers]
      | parameters =>
          obtain ⟨front, back, rfl, spelledFront, spelledBack⟩ := List.map_eq_append_iff.mp spelled
          obtain ⟨block, rfl, sameBlock⟩ := exists_block belowHypothesis spelledFront
          obtain ⟨others, rfl, sameOthers⟩ := behindHypothesis spelledBack
          refine ⟨.paramlist (.blockParameter block) others, rfl, ?_⟩
          simp [Derivation.nodes, Node.unplacedAll, sameBlock, sameOthers]
  | @value kind value _ _ admitted behind behindHypothesis =>
      obtain ⟨span, back, rfl, spelledBack⟩ := exists_of_map_word_cons spelled
      obtain ⟨others, rfl, sameOthers⟩ := behindHypothesis spelledBack
      refine ⟨.paramlist (.value ⟨.value kind, value, span⟩ rfl) others, rfl, ?_⟩
      simp [Derivation.nodes, Node.ofToken, Node.unplacedAll, Node.unplaced, sameOthers]

end BlockData
