import BlockData.Grammar

/-!
# Brackets

Which closing bracket belongs to an opening one is found by counting: it is the first one
behind it for which no bracket was opened since. The styles of brackets play no part in the
count, and no other tokens do. A phrase closes whatever it opens, so the count passes over
it (`Derivation.closingBracket?_tokens`), and the bracket that opens a block is closed by
the one that ends it (`Derivation.closingBracket?_block`).
-/

namespace BlockData

/-- Whether a kind is a bracket. -/
def Kind.isBracket : Kind → Bool
  | .opening _ => true
  | .closing _ => true
  | _ => false

/-- The bracket that closes what was opened in front of some tokens, if `depth` brackets
that were opened since have to be closed before it. -/
def closingBracket? (depth : Nat) : List Token → Option Token
  | [] => none
  | token :: others =>
      match token.kind with
      | .opening _ => closingBracket? (depth + 1) others
      | .closing _ =>
          match depth with
          | 0 => some token
          | outer + 1 => closingBracket? outer others
      | _ => closingBracket? depth others

section

variable {delimiter : Delimiter} {token : Token} {others : List Token}

/-- A bracket that is opened has to be closed before. -/
theorem closingBracket?_of_opening (opens : token.kind = .opening delimiter) (depth : Nat) :
    closingBracket? depth (token :: others) = closingBracket? (depth + 1) others := by
  simp only [closingBracket?, opens]

/-- A closing bracket is the one if nothing has to be closed before it. -/
theorem closingBracket?_of_closing (closes : token.kind = .closing delimiter) :
    closingBracket? 0 (token :: others) = some token := by
  simp only [closingBracket?, closes]

/-- A closing bracket closes what was opened last. -/
theorem closingBracket?_of_closing_succ (closes : token.kind = .closing delimiter) (depth : Nat) :
    closingBracket? (depth + 1) (token :: others) = closingBracket? depth others := by
  simp only [closingBracket?, closes]

/-- What is no bracket is passed over. -/
theorem closingBracket?_of_not_isBracket (noBracket : ¬token.kind.isBracket = true)
    (depth : Nat) : closingBracket? depth (token :: others) = closingBracket? depth others := by
  cases kind : token.kind with
  | opening => simp [kind, Kind.isBracket] at noBracket
  | closing => simp [kind, Kind.isBracket] at noBracket
  | _ => simp only [closingBracket?, kind]

end

/-- Leaving out tokens other than brackets makes no difference. -/
theorem closingBracket?_filter {p : Token → Bool}
    (keeps : ∀ token, token.kind.isBracket = true → p token = true) (depth : Nat)
    (tokens : List Token) :
    closingBracket? depth (tokens.filter p) = closingBracket? depth tokens := by
  induction tokens generalizing depth with
  | nil => rfl
  | cons token others inductionHypothesis =>
      by_cases isBracket : token.kind.isBracket = true
      · simp only [List.filter_cons_of_pos (keeps token isBracket), closingBracket?,
          inductionHypothesis]
      · rw [closingBracket?_of_not_isBracket isBracket]
        by_cases kept : p token = true
        · rw [List.filter_cons_of_pos kept, closingBracket?_of_not_isBracket isBracket,
            inductionHypothesis]
        · rw [List.filter_cons_of_neg kept, inductionHypothesis]

/-- No value is a bracket. -/
theorem Kind.not_isBracket_of_isValue {kind : Kind} (isValue : kind.isValue = true) :
    ¬kind.isBracket = true := by
  cases kind <;> first | exact Bool.false_ne_true | cases isValue

/-- No terminator is a bracket. -/
theorem Kind.not_isBracket_of_isTerminator {kind : Kind} (isTerminator : kind.isTerminator = true) :
    ¬kind.isBracket = true := by
  cases kind <;> first | exact Bool.false_ne_true | cases isTerminator

/-- Whatever a phrase opens, it also closes. -/
theorem Derivation.closingBracket?_tokens {phrase : Phrase} (derivation : Derivation phrase)
    (depth : Nat) (behind : List Token) :
    closingBracket? depth (derivation.tokens ++ behind) = closingBracket? depth behind := by
  induction derivation generalizing depth behind with
  | emptyProgram => rfl
  | program first others firstHypothesis othersHypothesis =>
      rw [tokens, List.append_assoc, firstHypothesis, othersHypothesis]
  | expressionStatement child inductionHypothesis => exact inductionHypothesis depth behind
  | blockStatement child inductionHypothesis => exact inductionHypothesis depth behind
  | blankStatement child inductionHypothesis => exact inductionHypothesis depth behind
  | comment token isComment =>
      exact closingBracket?_of_not_isBracket (by rw [isComment]; decide) depth
  | expression head isValue parameters terminator isTerminator inductionHypothesis =>
      rw [tokens, List.cons_append, List.append_assoc, List.singleton_append,
        closingBracket?_of_not_isBracket (Kind.not_isBracket_of_isValue isValue),
        inductionHypothesis,
        closingBracket?_of_not_isBracket (Kind.not_isBracket_of_isTerminator isTerminator)]
  | emptyParamlist => rfl
  | paramlist first others firstHypothesis othersHypothesis =>
      rw [tokens, List.append_assoc, firstHypothesis, othersHypothesis]
  | value token isValue =>
      exact closingBracket?_of_not_isBracket (Kind.not_isBracket_of_isValue isValue) depth
  | blockParameter child inductionHypothesis => exact inductionHypothesis depth behind
  | block delimiter opened opens inner closed closes inductionHypothesis =>
      rw [tokens, List.cons_append, List.append_assoc, List.singleton_append,
        closingBracket?_of_opening opens, inductionHypothesis,
        closingBracket?_of_closing_succ closes]
  | blank terminator isTerminator =>
      exact closingBracket?_of_not_isBracket (Kind.not_isBracket_of_isTerminator isTerminator) depth

/-- The bracket that opens a block is closed by the one that ends it. -/
theorem Derivation.closingBracket?_block {delimiter : Delimiter} {closed : Token}
    (inner : Derivation .program) (closes : closed.kind = .closing delimiter)
    (behind : List Token) :
    closingBracket? 0 (inner.tokens ++ closed :: behind) = some closed := by
  rw [inner.closingBracket?_tokens, closingBracket?_of_closing closes]

end BlockData
