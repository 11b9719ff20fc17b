import BlockData.Grammar

/-!
# Unambiguity

Tokens have at most one derivation. The kind of one token tells which alternative
of a rule is taken, and where a program or a list of parameters ends: programs end
before closing brackets and parameters before terminators, with which neither goes
on. So two derivations that start at the same place derive the same tokens in the
same way (`Derivation.eq_of_tokens_append`).
-/

namespace BlockData

/-- The kinds of tokens that phrases start with, as far as the grammar tells them
apart. -/
inductive Start where
  | value
  | opening
  | terminator
  | comment
deriving DecidableEq, Repr

/-- What a token of some kind may start. -/
def Kind.start? : Kind → Option Start
  | .value _ => some .value
  | .opening _ => some .opening
  | .terminator _ => some .terminator
  | .comment => some .comment
  | _ => none

/-- Every value starts the same. -/
theorem Kind.start?_of_isValue {kind : Kind} (isValue : kind.isValue = true) :
    kind.start? = some .value := by
  cases kind <;> first | rfl | cases isValue

/-- Every terminator starts the same. -/
theorem Kind.start?_of_isTerminator {kind : Kind} (isTerminator : kind.isTerminator = true) :
    kind.start? = some .terminator := by
  cases kind <;> first | rfl | cases isTerminator

/-- A phrase goes on with nothing that could belong to it. Only programs and lists
of parameters depend on that. -/
def Phrase.EndsBefore (rest : List Token) : Phrase → Prop
  | .program => ∀ token ∈ rest.head?, token.kind.endsProgram = true
  | .paramlist => ∀ token ∈ rest.head?, token.kind.isTerminator = true
  | _ => True

namespace Derivation

/-- What a derivation starts with. It is left open for phrases that can be empty. -/
def start? {phrase : Phrase} : Derivation phrase → Option Start
  | .expressionStatement _ => some .value
  | .blockStatement _ => some .opening
  | .blankStatement _ => some .terminator
  | .comment _ _ => some .comment
  | .expression .. => some .value
  | .value _ _ => some .value
  | .blockParameter _ => some .opening
  | .block .. => some .opening
  | .blank _ _ => some .terminator
  | _ => none

/-- The first token of a derivation is what the derivation starts with. -/
theorem tokens_of_start? {phrase : Phrase} {derivation : Derivation phrase} {start : Start}
    (starts : derivation.start? = some start) :
    ∃ token others, derivation.tokens = token :: others ∧ token.kind.start? = some start := by
  cases derivation with
  | emptyProgram => cases starts
  | program => cases starts
  | emptyParamlist => cases starts
  | paramlist => cases starts
  | expressionStatement child =>
      cases starts
      cases child with
      | expression head isValue => exact ⟨head, _, rfl, Kind.start?_of_isValue isValue⟩
  | blockStatement child =>
      cases starts
      cases child with
      | block delimiter opened opens => exact ⟨opened, _, rfl, by rw [opens]; rfl⟩
  | blankStatement child =>
      cases starts
      cases child with
      | blank terminator isTerminator =>
          exact ⟨terminator, _, rfl, Kind.start?_of_isTerminator isTerminator⟩
  | comment token isComment =>
      cases starts
      exact ⟨token, _, rfl, by rw [isComment]; rfl⟩
  | expression head isValue =>
      cases starts
      exact ⟨head, _, rfl, Kind.start?_of_isValue isValue⟩
  | value token isValue =>
      cases starts
      exact ⟨token, _, rfl, Kind.start?_of_isValue isValue⟩
  | blockParameter child =>
      cases starts
      cases child with
      | block delimiter opened opens => exact ⟨opened, _, rfl, by rw [opens]; rfl⟩
  | block delimiter opened opens =>
      cases starts
      exact ⟨opened, _, rfl, by rw [opens]; rfl⟩
  | blank terminator isTerminator =>
      cases starts
      exact ⟨terminator, _, rfl, Kind.start?_of_isTerminator isTerminator⟩

/-- Derivations at the same place start with the same. -/
theorem start?_eq {phrase otherPhrase : Phrase} {first : Derivation phrase}
    {second : Derivation otherPhrase} {rest other : List Token} (start : Start)
    (same : first.tokens ++ rest = second.tokens ++ other)
    (starts : first.start? = some start) (otherStart : Start)
    (otherStarts : second.start? = some otherStart) : start = otherStart := by
  obtain ⟨token, behind, tokens, kind⟩ := tokens_of_start? starts
  obtain ⟨token', behind', tokens', kind'⟩ := tokens_of_start? otherStarts
  rw [tokens, tokens', List.cons_append, List.cons_append, List.cons.injEq] at same
  rw [same.1, kind'] at kind
  exact (Option.some.inj kind).symm

/-- A statement is no part of what follows a program. -/
theorem statement_not_behind_program {statement : Derivation .statement} {rest other : List Token}
    (ends : Phrase.EndsBefore rest .program) : rest ≠ statement.tokens ++ other := by
  rintro rfl
  have starts : ∃ start, statement.start? = some start := by
    cases statement <;> exact ⟨_, rfl⟩
  obtain ⟨start, starts⟩ := starts
  obtain ⟨token, behind, tokens, kind⟩ := tokens_of_start? starts
  have ended : token.kind.endsProgram = true := ends token (by rw [tokens]; rfl)
  cases found : token.kind <;> simp_all [Kind.start?, Kind.endsProgram]

/-- A parameter is no part of what follows a list of parameters. -/
theorem parameter_not_behind_paramlist {parameter : Derivation .parameter}
    {rest other : List Token} (ends : Phrase.EndsBefore rest .paramlist) :
    rest ≠ parameter.tokens ++ other := by
  rintro rfl
  have starts : parameter.start? = some .value ∨ parameter.start? = some .opening := by
    cases parameter
    · exact .inl rfl
    · exact .inr rfl
  have ended : ∀ {token : Token} {behind : List Token}, parameter.tokens = token :: behind →
      token.kind.isTerminator = true := fun {token behind} tokens =>
    ends token (by rw [tokens]; rfl)
  rcases starts with starts | starts
  all_goals
    obtain ⟨token, behind, tokens, kind⟩ := tokens_of_start? starts
    have isTerminator := ended tokens
    cases found : token.kind <;> simp_all [Kind.start?, Kind.isTerminator]

/-- Two derivations of a phrase that start at the same place are the same and end
at the same place. -/
theorem eq_of_tokens_append {phrase : Phrase} (first second : Derivation phrase)
    {rest other : List Token} (same : first.tokens ++ rest = second.tokens ++ other)
    (ends : phrase.EndsBefore rest) (otherEnds : phrase.EndsBefore other) :
    first = second ∧ rest = other := by
  induction first generalizing rest other with
  | emptyProgram =>
      cases second with
      | emptyProgram => exact ⟨rfl, same⟩
      | program statement others =>
          rw [tokens, tokens, List.nil_append, List.append_assoc] at same
          exact absurd same (statement_not_behind_program ends)
  | program statement others statementHypothesis othersHypothesis =>
      cases second with
      | emptyProgram =>
          rw [tokens, tokens, List.nil_append, List.append_assoc] at same
          exact absurd same.symm (statement_not_behind_program otherEnds)
      | program statement' others' =>
          rw [tokens, tokens, List.append_assoc, List.append_assoc] at same
          obtain ⟨rfl, behind⟩ := statementHypothesis statement' same trivial trivial
          obtain ⟨rfl, rfl⟩ := othersHypothesis others' behind ends otherEnds
          exact ⟨rfl, rfl⟩
  | expressionStatement child childHypothesis =>
      have starts := start?_eq .value same rfl
      cases second with
      | expressionStatement child' =>
          obtain ⟨rfl, rfl⟩ := childHypothesis child' same trivial trivial
          exact ⟨rfl, rfl⟩
      | _ => cases starts _ rfl
  | blockStatement child childHypothesis =>
      have starts := start?_eq .opening same rfl
      cases second with
      | blockStatement child' =>
          obtain ⟨rfl, rfl⟩ := childHypothesis child' same trivial trivial
          exact ⟨rfl, rfl⟩
      | _ => cases starts _ rfl
  | blankStatement child childHypothesis =>
      have starts := start?_eq .terminator same rfl
      cases second with
      | blankStatement child' =>
          obtain ⟨rfl, rfl⟩ := childHypothesis child' same trivial trivial
          exact ⟨rfl, rfl⟩
      | _ => cases starts _ rfl
  | comment token isComment =>
      have starts := start?_eq .comment same rfl
      cases second with
      | comment token' isComment' =>
          obtain ⟨rfl, rfl⟩ := List.cons.inj same
          exact ⟨rfl, rfl⟩
      | _ => cases starts _ rfl
  | expression head isValue parameters terminator isTerminator parametersHypothesis =>
      cases second with
      | expression head' isValue' parameters' terminator' isTerminator' =>
          simp only [tokens, List.cons_append, List.append_assoc, List.cons.injEq] at same
          obtain ⟨rfl, behind⟩ := same
          obtain ⟨rfl, last⟩ := parametersHypothesis parameters' behind
            (by simpa [Phrase.EndsBefore] using isTerminator)
            (by simpa [Phrase.EndsBefore] using isTerminator')
          obtain ⟨rfl, rfl⟩ := List.cons.inj last
          exact ⟨rfl, rfl⟩
  | emptyParamlist =>
      cases second with
      | emptyParamlist => exact ⟨rfl, same⟩
      | paramlist parameter others =>
          rw [tokens, tokens, List.nil_append, List.append_assoc] at same
          exact absurd same (parameter_not_behind_paramlist ends)
  | paramlist parameter others parameterHypothesis othersHypothesis =>
      cases second with
      | emptyParamlist =>
          rw [tokens, tokens, List.nil_append, List.append_assoc] at same
          exact absurd same.symm (parameter_not_behind_paramlist otherEnds)
      | paramlist parameter' others' =>
          rw [tokens, tokens, List.append_assoc, List.append_assoc] at same
          obtain ⟨rfl, behind⟩ := parameterHypothesis parameter' same trivial trivial
          obtain ⟨rfl, rfl⟩ := othersHypothesis others' behind ends otherEnds
          exact ⟨rfl, rfl⟩
  | value token isValue =>
      have starts := start?_eq .value same rfl
      cases second with
      | value token' isValue' =>
          obtain ⟨rfl, rfl⟩ := List.cons.inj same
          exact ⟨rfl, rfl⟩
      | blockParameter => cases starts _ rfl
  | blockParameter child childHypothesis =>
      have starts := start?_eq .opening same rfl
      cases second with
      | value => cases starts _ rfl
      | blockParameter child' =>
          obtain ⟨rfl, rfl⟩ := childHypothesis child' same trivial trivial
          exact ⟨rfl, rfl⟩
  | block delimiter opened opens inner closed closes innerHypothesis =>
      cases second with
      | block delimiter' opened' opens' inner' closed' closes' =>
          simp only [tokens, List.cons_append, List.append_assoc, List.cons.injEq] at same
          obtain ⟨rfl, behind⟩ := same
          obtain rfl : delimiter = delimiter' := Kind.opening.inj (opens.symm.trans opens')
          obtain ⟨rfl, last⟩ := innerHypothesis inner' behind
            (by simp [Phrase.EndsBefore, closes, Kind.endsProgram])
            (by simp [Phrase.EndsBefore, closes', Kind.endsProgram])
          obtain ⟨rfl, rfl⟩ := List.cons.inj last
          exact ⟨rfl, rfl⟩
  | blank terminator isTerminator =>
      cases second with
      | blank terminator' isTerminator' =>
          obtain ⟨rfl, rfl⟩ := List.cons.inj same
          exact ⟨rfl, rfl⟩

/-- The tokens of a program have one derivation. -/
theorem eq_of_tokens {first second : Derivation .program} (same : first.tokens = second.tokens) :
    first = second := by
  have sameBehind : first.tokens ++ [] = second.tokens ++ [] := by rw [same]
  have ends : Phrase.EndsBefore [] .program := by simp [Phrase.EndsBefore]
  exact (first.eq_of_tokens_append second sameBehind ends ends).1

end Derivation

end BlockData
