import BlockData.Proofs.Parsing.Concatenation
import BlockData.Proofs.Parsing.Stopping
import Mathlib

/-!
# Blank lines

Terminators between statements change nothing but the place of the program. No expression is
open behind a terminator, an opening bracket or a comment, at any depth
(`Nesting.inExpression_of_isBeforeStatements`), and there terminators lead nowhere else, so
the rest of a stream is walked through as before. If it stops where a program ends, then the
terminators are blank statements of the program or of a block in it, which leave no node
(`Derivation.takesInBetween`). If it stops at an error, then the error is the same.
-/

namespace BlockData

/-- Whether only statements stand behind a token of a kind. Behind a closing bracket stand
statements as well, but also parameters. -/
def Kind.isBeforeStatements : Kind → Bool
  | .terminator _ => true
  | .opening _ => true
  | .comment => true
  | _ => false

/-- Results of parsing that are the same error, or trees of the same statements. The places
of the root and the program may differ. -/
inductive SameStatements : Except ParseError Node → Except ParseError Node → Prop where
  | errors (error : ParseError) : SameStatements (.error error) (.error error)
  | trees (place other : Span) (statements : List Node) :
      SameStatements (.ok (.node .root none place [.node .program none place statements]))
        (.ok (.node .root none other [.node .program none other statements]))

/-- No expression is open behind a token that only statements stand behind. -/
theorem Nesting.inExpression_of_isBeforeStatements {before : List Token} {reached : Nesting}
    (walked : Nesting.top.afterAll? before = some reached)
    (boundary : ∀ last ∈ before.getLast?, last.kind.isBeforeStatements = true) :
    reached.inExpression = false := by
  rcases List.eq_nil_or_concat before with rfl | ⟨earlier, last, rfl⟩
  · obtain rfl := Option.some.inj walked
    rfl
  · rw [List.concat_eq_append] at walked boundary
    have isBefore := boundary last List.getLast?_concat
    rw [afterAll?_append, Option.bind_eq_some_iff] at walked
    obtain ⟨nesting, -, ended⟩ := walked
    obtain ⟨next, passes, isReached⟩ := exists_of_afterAll?_cons ended
    obtain rfl : next = reached := Option.some.inj isReached
    generalize last.kind = kind at isBefore passes
    cases passes with
    | terminator => rfl
    | opening => rfl
    | comment => rfl
    | _ => cases isBefore

/-- Terminators between statements lead nowhere else. -/
theorem Nesting.afterAll?_terminators {nesting : Nesting} {blanks : List Token}
    (between : nesting.inExpression = false)
    (areBlanks : ∀ token ∈ blanks, token.kind.isTerminator = true) :
    nesting.afterAll? blanks = some nesting := by
  obtain ⟨_, enclosing⟩ := nesting
  obtain rfl := between
  induction blanks with
  | nil => rfl
  | cons token others inductionHypothesis =>
      rw [afterAll?_cons, after?_of_isTerminator _ (areBlanks token List.mem_cons_self)]
      exact inductionHypothesis fun other member => areBlanks other (List.mem_cons_of_mem _ member)

/-- A list that starts and ends with an entry each, cut somewhere between the two. -/
theorem exists_of_cut_between {α : Type} {first last : α} {middle before after : List α}
    (split : first :: (middle ++ [last]) = before ++ after) (behindFirst : before ≠ [])
    (beforeLast : after ≠ []) :
    ∃ front back, before = first :: front ∧ after = back ++ [last] ∧ middle = front ++ back := by
  obtain ⟨head, front, rfl⟩ := List.exists_cons_of_ne_nil behindFirst
  obtain ⟨back, final, rfl⟩ := (List.eq_nil_or_concat after).resolve_left beforeLast
  rw [List.concat_eq_append, List.cons_append, ← List.append_assoc] at split
  obtain ⟨rfl, inner⟩ := List.cons.inj split
  obtain ⟨rfl, isLast⟩ := List.append_inj' inner rfl
  obtain rfl := List.singleton_inj.mp isLast
  exact ⟨front, back, rfl, List.concat_eq_append, rfl⟩

/-- A list of one entry cannot be cut into two lists with entries. -/
theorem not_cut_within_single {α : Type} {entry : α} {before after : List α}
    (split : [entry] = before ++ after) : ¬(before ≠ [] ∧ after ≠ []) := by
  rintro ⟨behindFirst, beforeLast⟩
  rcases List.append_eq_singleton_iff.mp split.symm with ⟨isNil, -⟩ | ⟨-, isNil⟩
  · exact behindFirst isNil
  · exact beforeLast isNil

namespace Derivation

/-- Terminators are a program without nodes. -/
theorem exists_of_terminators {blanks : List Token}
    (areBlanks : ∀ token ∈ blanks, token.kind.isTerminator = true) :
    ∃ program : Derivation .program, program.tokens = blanks ∧ program.nodes = [] := by
  induction blanks with
  | nil => exact ⟨.emptyProgram, rfl, rfl⟩
  | cons token others inductionHypothesis =>
      obtain ⟨program, rfl, noNodes⟩ :=
        inductionHypothesis fun other member => areBlanks other (List.mem_cons_of_mem _ member)
      exact ⟨.program (.blankStatement (.blank token (areBlanks token List.mem_cons_self))) program,
        rfl, noNodes⟩

/-- A program can be put into a derivation at a cut of its tokens, and the nodes stay as they
are. -/
def TakesIn {phrase : Phrase} (derivation : Derivation phrase) (blanks : Derivation .program)
    (before after : List Token) : Prop :=
  ∃ other : Derivation phrase, other.tokens = before ++ (blanks.tokens ++ after) ∧
    other.nodes = derivation.nodes

/-- A program can be put into a derivation wherever no expression is open. If the derivation is a
program itself, that may be at its ends. -/
def TakesInBetween {phrase : Phrase} (derivation : Derivation phrase)
    (blanks : Derivation .program) : Prop :=
  ∀ ⦃inExpression : Bool⦄ ⦃outer enclosing : List (Delimiter × Bool)⦄ ⦃before after : List Token⦄,
    phrase.standsIn inExpression = true → derivation.tokens = before ++ after →
    Nesting.afterAll? ⟨inExpression, outer⟩ before = some ⟨false, enclosing⟩ →
    phrase = .program ∨ before ≠ [] ∧ after ≠ [] → derivation.TakesIn blanks before after

section

variable {blanks : Derivation .program} {before after : List Token}

/-- Where no expression is open, something stands behind the place where one was. -/
theorem ne_nil_of_closed {outer enclosing : List (Delimiter × Bool)}
    (between : Nesting.afterAll? ⟨true, outer⟩ before = some ⟨false, enclosing⟩) :
    before ≠ [] := by
  rintro rfl
  cases between

/-- At the end of a phrase of an open expression, the expression is open. -/
theorem ne_nil_of_closed_within {phrase : Phrase} {derivation : Derivation phrase}
    (stands : phrase.standsIn true = true) (isCut : derivation.tokens = before ++ after)
    {outer enclosing : List (Delimiter × Bool)}
    (between : Nesting.afterAll? ⟨true, outer⟩ before = some ⟨false, enclosing⟩) :
    after ≠ [] := by
  rintro rfl
  rw [List.append_nil] at isCut
  rw [← isCut, derivation.afterAll?_tokens true stands] at between
  cases between

/-- A rule whose phrase consists of two other ones. -/
structure IsSequence {first others whole : Phrase}
    (rule : Derivation first → Derivation others → Derivation whole) : Prop where
  tokens : ∀ left right, (rule left right).tokens = left.tokens ++ right.tokens
  nodes : ∀ left right, (rule left right).nodes = left.nodes ++ right.nodes

theorem isSequence_program : IsSequence program := ⟨fun _ _ => rfl, fun _ _ => rfl⟩

theorem isSequence_paramlist : IsSequence paramlist := ⟨fun _ _ => rfl, fun _ _ => rfl⟩

/-- What is put into the first part of a sequence is put into the sequence. -/
theorem IsSequence.takesIn_first {first others whole : Phrase}
    {rule : Derivation first → Derivation others → Derivation whole} (isSequence : IsSequence rule)
    {left : Derivation first} (taken : left.TakesIn blanks before after)
    (right : Derivation others) :
    (rule left right).TakesIn blanks before (after ++ right.tokens) := by
  obtain ⟨left', derives, sameNodes⟩ := taken
  refine ⟨rule left' right, ?_, by rw [isSequence.nodes, isSequence.nodes, sameNodes]⟩
  rw [isSequence.tokens, derives, List.append_assoc, List.append_assoc]

/-- What is put into the second part of a sequence is put into the sequence. -/
theorem IsSequence.takesIn_others {first others whole : Phrase}
    {rule : Derivation first → Derivation others → Derivation whole} (isSequence : IsSequence rule)
    {right : Derivation others} (taken : right.TakesIn blanks before after)
    (left : Derivation first) :
    (rule left right).TakesIn blanks (left.tokens ++ before) after := by
  obtain ⟨right', derives, sameNodes⟩ := taken
  refine ⟨rule left right', ?_, by rw [isSequence.nodes, isSequence.nodes, sameNodes]⟩
  rw [isSequence.tokens, derives, List.append_assoc]

/-- What is put between the parameters of an expression is put into the expression. -/
theorem TakesIn.expression {parameters : Derivation .paramlist}
    (taken : parameters.TakesIn blanks before after) (isCut : parameters.tokens = before ++ after)
    (behindHead : before ≠ []) (head : Token) (isValue : head.kind.isValue) (terminator : Token)
    (isTerminator : terminator.kind.isTerminator) :
    (expression head isValue parameters terminator isTerminator).TakesIn blanks
      (head :: before) (after ++ [terminator]) := by
  obtain ⟨parameters', derives, sameNodes⟩ := taken
  -- the parameters still stand where their first token does
  have samePlace : (parameters'.tokens.headD terminator).span =
      (parameters.tokens.headD terminator).span := by
    obtain ⟨token, others, rfl⟩ := List.exists_cons_of_ne_nil behindHead
    rw [derives, isCut]
    rfl
  refine ⟨.expression head isValue parameters' terminator isTerminator, ?_, ?_⟩
  · rw [tokens, derives]
    simp only [List.cons_append, List.append_assoc]
  · rw [nodes, nodes, sameNodes, samePlace]

/-- What is put into the program of a block is put into the block. -/
theorem TakesIn.block {inner : Derivation .program} (taken : inner.TakesIn blanks before after)
    (delimiter : Delimiter) (opened : Token) (opens : opened.kind = .opening delimiter)
    (closed : Token) (closes : closed.kind = .closing delimiter) :
    (block delimiter opened opens inner closed closes).TakesIn blanks
      (opened :: before) (after ++ [closed]) := by
  obtain ⟨inner', derives, sameNodes⟩ := taken
  refine ⟨.block delimiter opened opens inner' closed closes, ?_, by rw [nodes, nodes, sameNodes]⟩
  rw [tokens, derives]
  simp only [List.cons_append, List.append_assoc]

/-- A program without nodes can be put in front of a program. -/
theorem takesIn_start (noNodes : blanks.nodes = []) (program : Derivation .program) :
    program.TakesIn blanks [] program.tokens := by
  obtain ⟨joined, joinedTokens, joinedNodes⟩ := blanks.exists_append program
  exact ⟨joined, joinedTokens, by rw [joinedNodes, noNodes, List.nil_append]⟩

/-- A single token is not cut. -/
theorem takesInBetween_single {phrase : Phrase} {derivation : Derivation phrase} {token : Token}
    (isSingle : derivation.tokens = [token]) (notProgram : phrase ≠ .program) :
    derivation.TakesInBetween blanks := by
  intro inExpression outer enclosing before after stands split between inside
  rw [isSingle] at split
  exact absurd (inside.resolve_left notProgram) (not_cut_within_single split)

/-- A phrase that consists of another one is cut within it. -/
theorem TakesInBetween.only {phrase whole : Phrase} {child : Derivation phrase}
    (takesIn : child.TakesInBetween blanks) {rule : Derivation phrase → Derivation whole}
    (sameTokens : ∀ child, (rule child).tokens = child.tokens)
    (sameNodes : ∀ child, (rule child).nodes = child.nodes) (notProgram : whole ≠ .program)
    (standsAlike : ∀ inExpression, whole.standsIn inExpression = true →
      phrase.standsIn inExpression = true) : (rule child).TakesInBetween blanks := by
  intro inExpression outer enclosing before after stands split between inside
  rw [sameTokens] at split
  obtain ⟨child', derives, same⟩ := takesIn (standsAlike inExpression stands) split between
    (.inr (inside.resolve_left notProgram))
  exact ⟨rule child', (sameTokens child').trans derives, by rw [sameNodes, sameNodes, same]⟩

/-- A program is cut in front of its first statement, within it, or behind it. -/
theorem TakesInBetween.program {first : Derivation .statement} {others : Derivation .program}
    (noNodes : blanks.nodes = []) (firstTakesIn : first.TakesInBetween blanks)
    (othersTakeIn : others.TakesInBetween blanks) :
    (program first others).TakesInBetween blanks := by
  intro inExpression outer enclosing before after stands split between inside
  rcases List.append_eq_append_iff.mp split with ⟨front, rfl, isOthers⟩ | ⟨back, isFirst, rfl⟩
  · rw [Nesting.afterAll?_append, first.afterAll?_tokens _ stands] at between
    exact isSequence_program.takesIn_others (othersTakeIn stands isOthers between (.inl rfl)) first
  by_cases atStart : before = []
  · subst atStart
    rw [← show first.tokens = back from isFirst]
    exact takesIn_start noNodes (.program first others)
  by_cases atEnd : back = []
  · subst atEnd
    rw [← isFirst.trans (List.append_nil before), ← List.append_nil first.tokens]
    exact isSequence_program.takesIn_others (takesIn_start noNodes others) first
  · exact isSequence_program.takesIn_first
      (firstTakesIn stands isFirst between (.inr ⟨atStart, atEnd⟩)) others

/-- Parameters are cut within the first one or within the others. Between two parameters, and at
both ends of them, the expression is open. -/
theorem TakesInBetween.paramlist {first : Derivation .parameter} {others : Derivation .paramlist}
    (firstTakesIn : first.TakesInBetween blanks) (othersTakeIn : others.TakesInBetween blanks) :
    (paramlist first others).TakesInBetween blanks := by
  intro inExpression outer enclosing before after stands split between inside
  obtain rfl : inExpression = true := stands
  obtain ⟨behindFirst, beforeLast⟩ := inside.resolve_left (by decide)
  rcases List.append_eq_append_iff.mp split with ⟨front, rfl, isOthers⟩ | ⟨back, isFirst, rfl⟩
  · rw [Nesting.afterAll?_append, first.afterAll?_tokens true rfl, Option.bind_some] at between
    have behindParameter := ne_nil_of_closed between
    exact isSequence_paramlist.takesIn_others
      (othersTakeIn rfl isOthers between (.inr ⟨behindParameter, beforeLast⟩)) first
  · have beforeParameter := ne_nil_of_closed_within rfl isFirst between
    exact isSequence_paramlist.takesIn_first
      (firstTakesIn rfl isFirst between (.inr ⟨behindFirst, beforeParameter⟩)) others

/-- An expression is cut between its parameters. At both ends of them it is open. -/
theorem TakesInBetween.expression {parameters : Derivation .paramlist}
    (takeIn : parameters.TakesInBetween blanks) (head : Token) (isValue : head.kind.isValue)
    (terminator : Token) (isTerminator : terminator.kind.isTerminator) :
    (expression head isValue parameters terminator isTerminator).TakesInBetween blanks := by
  intro inExpression outer enclosing before after stands split between inside
  obtain ⟨behindFirst, beforeLast⟩ := inside.resolve_left (by decide)
  obtain ⟨front, back, rfl, rfl, isCut⟩ := exists_of_cut_between split behindFirst beforeLast
  rw [Nesting.afterAll?_cons, Nesting.after?_of_isValue _ isValue, Option.bind_some] at between
  have behindHead := ne_nil_of_closed between
  have beforeTerminator := ne_nil_of_closed_within rfl isCut between
  exact (takeIn rfl isCut between (.inr ⟨behindHead, beforeTerminator⟩)).expression isCut
    behindHead head isValue terminator isTerminator

/-- A block is cut within its program, or at the ends of it. -/
theorem TakesInBetween.block {inner : Derivation .program} (takesIn : inner.TakesInBetween blanks)
    (delimiter : Delimiter) (opened : Token) (opens : opened.kind = .opening delimiter)
    (closed : Token) (closes : closed.kind = .closing delimiter) :
    (block delimiter opened opens inner closed closes).TakesInBetween blanks := by
  intro inExpression outer enclosing before after stands split between inside
  obtain ⟨behindFirst, beforeLast⟩ := inside.resolve_left (by decide)
  obtain ⟨front, back, rfl, rfl, isCut⟩ := exists_of_cut_between split behindFirst beforeLast
  rw [Nesting.afterAll?_cons, opens] at between
  exact (takesIn rfl isCut between (.inl rfl)).block delimiter opened opens closed closes

/-- A program without nodes can be put between any two statements of a derivation, however
deep, and at both ends of a program. -/
theorem takesInBetween (noNodes : blanks.nodes = []) {phrase : Phrase}
    (derivation : Derivation phrase) : derivation.TakesInBetween blanks := by
  induction derivation with
  | emptyProgram =>
      intro inExpression outer enclosing before after stands split between inside
      obtain ⟨rfl, rfl⟩ := List.append_eq_nil_iff.mp split.symm
      exact takesIn_start noNodes .emptyProgram
  | program first others firstTakesIn othersTakeIn =>
      exact .program noNodes firstTakesIn othersTakeIn
  | expressionStatement child takesIn =>
      exact takesIn.only (fun _ => rfl) (fun _ => rfl) (by decide) fun _ stands => stands
  | blockStatement child takesIn =>
      exact takesIn.only (fun _ => rfl) (fun _ => rfl) (by decide) fun _ _ => rfl
  | blankStatement child =>
      cases child with
      | blank terminator => exact takesInBetween_single rfl (by decide)
  | comment token => exact takesInBetween_single rfl (by decide)
  | expression head isValue parameters terminator isTerminator takeIn =>
      exact takeIn.expression head isValue terminator isTerminator
  | emptyParamlist =>
      intro inExpression outer enclosing before after stands split between inside
      obtain ⟨rfl, rfl⟩ := List.append_eq_nil_iff.mp split.symm
      exact absurd rfl (inside.resolve_left (by decide)).1
  | paramlist first others firstTakesIn othersTakeIn => exact .paramlist firstTakesIn othersTakeIn
  | value token => exact takesInBetween_single rfl (by decide)
  | blockParameter child takesIn =>
      exact takesIn.only (fun _ => rfl) (fun _ => rfl) (by decide) fun _ _ => rfl
  | block delimiter opened opens inner closed closes takesIn =>
      exact takesIn.block delimiter opened opens closed closes
  | blank token => exact takesInBetween_single rfl (by decide)

end

end Derivation

namespace TokenStream

section

variable {stream : TokenStream} {before after : List Token}

/-- The tokens of a stream up to a position behind its first ones. -/
theorem firstTokens_add_of_split (split : stream.tokens = before ++ after) (count : Nat) :
    stream.firstTokens (before.length + count) =
      before ++ firstTokens ⟨after, stream.finalSpan⟩ count := by
  have first := firstTokens_of_split split
  rw [firstTokens] at first
  rw [firstTokens, List.range_add, List.map_append, first, List.map_map, firstTokens]
  exact congrArg _ (List.map_congr_left fun index _ => token_of_split split index)

/-- A stream goes on behind its first tokens where they lead to. -/
theorem StopsAt.behind {count : Nat} {reached : Nesting}
    (stops : stream.StopsAt (before.length + count) reached)
    (split : stream.tokens = before ++ after) :
    ∃ middle, Nesting.top.afterAll? before = some middle ∧
      middle.afterAll? (firstTokens ⟨after, stream.finalSpan⟩ count) = some reached := by
  have walked := stops.walked
  rwa [firstTokens_add_of_split split, Nesting.afterAll?_append, Option.bind_eq_some_iff] at walked

end

variable {stream other : TokenStream} {position otherPosition : Nat} {reached : Nesting}

/-- Parsing gives the same statements, or the same error, where two streams stop alike behind
programs with the same nodes. -/
theorem sameStatements_of_stopsAt (stops : stream.StopsAt position reached)
    (otherStops : other.StopsAt otherPosition reached)
    (here : other.token otherPosition = stream.token position)
    (behind : (stream.token position).kind = .eof →
      other.token (otherPosition + 1) = stream.token (position + 1))
    (programs : ∀ program : Derivation .program, program.tokens = stream.firstTokens position →
      ∃ otherProgram : Derivation .program,
        otherProgram.tokens = other.firstTokens otherPosition ∧
          otherProgram.nodes = program.nodes) :
    SameStatements other.parse stream.parse := by
  rcases stops.parse_matching otherStops (.of_eq here) (fun atEnd => .of_eq (behind atEnd))
      programs with
    ⟨error, failed, otherFailed⟩ | ⟨program, otherProgram, parsed, otherParsed, sameNodes⟩
  · rw [failed, otherFailed]
    exact .errors error
  · rw [parsed, otherParsed, Derivation.tree, Derivation.tree, sameNodes]
    exact .trees _ _ _

/-- Streams that stop within the same first tokens give the same, unless the last of these is
the end of input. -/
theorem sameStatements_of_stops_within {before after otherAfter : List Token} {finalSpan : Span}
    (notAtEnd : ∀ last ∈ before.getLast?, last.kind ≠ .eof)
    (stops : StopsAt ⟨before ++ after, finalSpan⟩ position reached)
    (within : position < before.length) :
    SameStatements (parse ⟨before ++ otherAfter, finalSpan⟩)
      (parse ⟨before ++ after, finalSpan⟩) := by
  let stream : TokenStream := ⟨before ++ after, finalSpan⟩
  let other : TokenStream := ⟨before ++ otherAfter, finalSpan⟩
  obtain ⟨front, found, others, rfl, rfl⟩ : ∃ front found others,
      before = front ++ found :: others ∧ position = front.length := by
    refine ⟨before.take position, before[position], before.drop (position + 1), ?_, ?_⟩
    · rw [List.getElem_cons_drop, List.take_append_drop]
    · rw [List.length_take, Nat.min_eq_left within.le]
  have split : stream.tokens = front ++ (found :: others ++ after) := by
    simp only [stream, List.append_assoc]
  have otherSplit : other.tokens = front ++ (found :: others ++ otherAfter) := by
    simp only [other, List.append_assoc]
  have sameTokens : other.firstTokens front.length = stream.firstTokens front.length := by
    rw [firstTokens_of_split split, firstTokens_of_split otherSplit]
  have here : other.token front.length = stream.token front.length := by
    rw [token_length_of_split split, token_length_of_split otherSplit]
    rfl
  refine sameStatements_of_stopsAt stops
    ⟨by rw [sameTokens]; exact stops.walked, by rw [here]; exact stops.stops⟩ here ?_
    fun program derives => ⟨program, by rw [derives, sameTokens], rfl⟩
  intro atEnd
  rw [token_succ_of_split split, token_succ_of_split otherSplit]
  cases others with
  | cons next others => rfl
  | nil =>
      rw [token_length_of_split split] at atEnd
      exact absurd atEnd (notAtEnd found List.getLast?_concat)

/-- Terminators between statements change nothing if the stream stops behind them. -/
theorem sameStatements_of_stops_behind {before blanks after : List Token} {finalSpan : Span}
    {count : Nat} (boundary : ∀ last ∈ before.getLast?, last.kind.isBeforeStatements = true)
    (areBlanks : ∀ token ∈ blanks, token.kind.isTerminator = true)
    (stops : StopsAt ⟨before ++ after, finalSpan⟩ (before.length + count) reached) :
    SameStatements (parse ⟨before ++ (blanks ++ after), finalSpan⟩)
      (parse ⟨before ++ after, finalSpan⟩) := by
  let stream : TokenStream := ⟨before ++ after, finalSpan⟩
  let other : TokenStream := ⟨before ++ (blanks ++ after), finalSpan⟩
  have split : stream.tokens = before ++ after := rfl
  have otherSplit : other.tokens = before ++ blanks ++ after := (List.append_assoc ..).symm
  obtain ⟨⟨inExpression, enclosing⟩, walked, walkedOn⟩ := stops.behind split
  obtain rfl := Nesting.inExpression_of_isBeforeStatements walked boundary
  have same : ∀ index, other.token ((before ++ blanks).length + index) =
      stream.token (before.length + index) := fun index => by
    rw [token_of_split split, token_of_split otherSplit]
  have otherTokens : other.firstTokens ((before ++ blanks).length + count) =
      before ++ (blanks ++ firstTokens ⟨after, finalSpan⟩ count) := by
    rw [firstTokens_add_of_split otherSplit, List.append_assoc]
  have otherStops : other.StopsAt ((before ++ blanks).length + count) reached := by
    refine ⟨?_, by rw [same]; exact stops.stops⟩
    rw [otherTokens, Nesting.afterAll?_append, walked, Option.bind_some,
      Nesting.afterAll?_append, Nesting.afterAll?_terminators rfl areBlanks, Option.bind_some]
    exact walkedOn
  refine sameStatements_of_stopsAt stops otherStops (same count)
    (fun _ => same (count + 1)) fun program derives => ?_
  rw [firstTokens_add_of_split split] at derives
  obtain ⟨blankStatements, rfl, noNodes⟩ := Derivation.exists_of_terminators areBlanks
  obtain ⟨otherProgram, otherDerives, sameNodes⟩ :=
    Derivation.takesInBetween noNodes program rfl derives walked (.inl rfl)
  exact ⟨otherProgram, by rw [otherDerives, otherTokens], sameNodes⟩

/-- Blank lines do not matter anywhere between statements. At the start of a stream, or
behind a terminator, an opening bracket or a comment, at any depth and whether or not the
stream can be parsed, any terminators can be put in: what parsing gives is the same error, or
a tree of the same statements, with all of their places. -/
theorem parse_ignores_blank_lines {before blanks : List Token} (after : List Token)
    (finalSpan : Span)
    (boundary : ∀ last ∈ before.getLast?, last.kind.isBeforeStatements = true)
    (areBlanks : ∀ token ∈ blanks, token.kind.isTerminator = true) :
    SameStatements (parse ⟨before ++ (blanks ++ after), finalSpan⟩)
      (parse ⟨before ++ after, finalSpan⟩) := by
  obtain ⟨position, reached, stops, -⟩ := exists_verdict ⟨before ++ after, finalSpan⟩
  by_cases within : position < before.length
  · refine sameStatements_of_stops_within (fun last isLast atEnd => ?_) stops within
    have isBefore := boundary last isLast
    rw [atEnd] at isBefore
    cases isBefore
  · obtain ⟨count, rfl⟩ := Nat.exists_eq_add_of_le (Nat.le_of_not_lt within)
    exact sameStatements_of_stops_behind boundary areBlanks stops

/-- Two blank lines at the start of a block that is a parameter. -/
theorem parse_ignores_blank_lines_in_parameter :
    let before := [Nesting.bareToken (.value .symbol), Nesting.bareToken (.opening .paren)]
    let blanks := [Nesting.bareToken (.terminator .newline),
      Nesting.bareToken (.terminator .semicolon)]
    let after := [Nesting.bareToken .comment, Nesting.bareToken (.closing .paren),
      Nesting.bareToken (.terminator .newline), Nesting.bareToken .eof]
    (∀ last ∈ before.getLast?, last.kind.isBeforeStatements = true) ∧
      (∀ token ∈ blanks, token.kind.isTerminator = true) ∧
      (∃ tree, parse ⟨before ++ after, ⟨0, 0, 1, 1⟩⟩ = .ok tree) ∧
      SameStatements (parse ⟨before ++ (blanks ++ after), ⟨0, 0, 1, 1⟩⟩)
        (parse ⟨before ++ after, ⟨0, 0, 1, 1⟩⟩) := by
  intro before blanks after
  have boundary : ∀ last ∈ before.getLast?, last.kind.isBeforeStatements = true := by decide
  have areBlanks : ∀ token ∈ blanks, token.kind.isTerminator = true := by decide
  obtain ⟨tree, parsed⟩ : ∃ tree, parse ⟨before ++ after, ⟨0, 0, 1, 1⟩⟩ = .ok tree := by
    simp only [before, after, List.cons_append, List.nil_append]
    constructor
    cbv
  exact ⟨boundary, areBlanks, ⟨tree, parsed⟩, parse_ignores_blank_lines after _ boundary areBlanks⟩

end TokenStream

end BlockData
