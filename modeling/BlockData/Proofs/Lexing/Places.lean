import BlockData.Proofs.Lexing.Reports
import BlockData.Proofs.Parsing.Source

/-!
# Places of tokens

Where the tokens of a text stand. Each of them starts where the one before ends or behind it,
also without those that the grammar never sees (`Cursor.lieWithin_tokens`), it reports the line
and the column of its start, and a bracket is the character there.
-/

namespace BlockData

/-- The character of a bracket. -/
def Kind.bracketChar? : Kind → Option Char
  | .opening delimiter => some delimiter.openChar
  | .closing delimiter => some delimiter.closeChar
  | _ => none

/-- A single character is the bracket that it is read as. -/
theorem eq_of_mem_bracketChar? {c d : Char} {kind : Kind} (single : singleKind? c = some kind)
    (isBracket : d ∈ kind.bracketChar?) : c = d := by
  unfold singleKind? at single
  split at single
  case h_5 =>
    rw [Option.or_eq_some_iff, Option.map_eq_some_iff, Option.map_eq_some_iff] at single
    rcases single with ⟨delimiter, opens, rfl⟩ | ⟨-, delimiter, closes, rfl⟩
    · rw [← Option.some.inj isBracket, Delimiter.openChar_of_ofOpenChar? opens]
    · rw [← Option.some.inj isBracket, Delimiter.closeChar_of_ofCloseChar? closes]
  all_goals
    cases single
    cases isBracket

/-- A lexeme that is a bracket is its character and nothing more. -/
theorem Lexeme.read_bracket {c d : Char} {rest : List Char}
    (isBracket : d ∈ (read c rest).kind.bracketChar?) : c = d ∧ (read c rest).length = 1 := by
  unfold read at isBracket ⊢
  split at isBracket
  case h_3 =>
    unfold readContinuation at isBracket
    split at isBracket <;> cases isBracket
  case h_4 kind lead =>
    exact ⟨eq_of_mem_bracketChar? (Lead.of_spec lead) isBracket, rfl⟩
  case h_6 =>
    unfold readString at isBracket
    split at isBracket <;> cases isBracket
  case h_7 =>
    unfold readNumber at isBracket
    dsimp only at isBracket
    split at isBracket
    · cases isBracket
    · split at isBracket <;> cases isBracket
  all_goals cases isBracket

/-- A span of a text comes with the line and the column of its start. -/
structure Span.IsPlaced (text : List Char) (span : Span) : Prop where
  ordered : span.start ≤ span.stop
  line : span.line = lineAt text span.start
  column : span.column = columnAt text span.start

/-- A token stands where its span says. -/
structure Token.StandsIn (text : List Char) (token : Token) : Prop where
  placed : token.span.IsPlaced text
  /-- A bracket is the character at the start of its span. -/
  bracket : ∀ c ∈ token.kind.bracketChar?,
    text[token.span.start]? = some c ∧ token.span.stop = token.span.start + 1

/-- The token of a lexeme stands where its span says, unless it is malformed. -/
theorem Lexeme.tokenAt_standsIn {text : List Char} {offset : Nat} {c : Char} {rest : List Char}
    (behind : text.drop offset = c :: rest)
    (sound : ((read c rest).tokenAt text offset).isFail = false) :
    ((read c rest).tokenAt text offset).StandsIn text := by
  have noMessage : ((read c rest).tokenAt text offset).failMessage? = none := by
    rw [Token.failMessage?, sound]
    rfl
  have reported := tokenAt_isReported behind
  rw [noMessage] at reported
  obtain ⟨line, column⟩ := reported.atStart fun message isMessage => by cases isMessage
  refine ⟨⟨Nat.le_add_right .., line, column⟩, fun d isBracket => ?_⟩
  obtain ⟨rfl, isSingle⟩ := read_bracket isBracket
  refine ⟨?_, congrArg (offset + ·) isSingle⟩
  rw [← List.head?_drop]
  exact congrArg List.head? behind

/-- The end of input stands at the end of a text. -/
theorem endToken_standsIn (text : List Char) : (endToken text).StandsIn text where
  placed := ⟨Nat.le_refl _, rfl, rfl⟩
  bracket := nofun

/-- Tokens stand in a part of a text, one behind the other. -/
def LieWithin (text : List Char) (first last : Nat) : List Token → Prop
  | [] => first ≤ last
  | token :: others =>
      first ≤ token.span.start ∧ token.StandsIn text ∧
        LieWithin text token.span.stop last others

namespace LieWithin

variable {text : List Char} {first last : Nat} {tokens front back : List Token} {token : Token}

/-- Tokens stand in front of the end of their part. -/
theorem le (lie : LieWithin text first last tokens) : first ≤ last := by
  induction tokens generalizing first with
  | nil => exact lie
  | cons token others inductionHypothesis =>
      obtain ⟨begins, stands, behind⟩ := lie
      have ordered := stands.placed.ordered
      have ends := inductionHypothesis behind
      omega

/-- The part that tokens stand in may start earlier. -/
theorem mono {earlier : Nat} (lie : LieWithin text first last tokens)
    (isEarlier : earlier ≤ first) : LieWithin text earlier last tokens := by
  cases tokens with
  | nil => exact Nat.le_trans isEarlier lie
  | cons token others => exact ⟨Nat.le_trans isEarlier lie.1, lie.2⟩

/-- Tokens that are listed one part after the other stand in two parts of the text. -/
theorem split (lie : LieWithin text first last (front ++ back)) :
    ∃ middle, LieWithin text first middle front ∧ LieWithin text middle last back := by
  induction front generalizing first with
  | nil => exact ⟨first, Nat.le_refl _, lie⟩
  | cons token others inductionHypothesis =>
      obtain ⟨begins, stands, behind⟩ := lie
      obtain ⟨middle, inFront, isBehind⟩ := inductionHypothesis behind
      exact ⟨middle, ⟨begins, stands, inFront⟩, isBehind⟩

/-- The first of some tokens in front of another one, or that one, and all of them from its
start on. -/
theorem headD (lie : LieWithin text first last (tokens ++ [token])) :
    first ≤ (tokens.headD token).span.start ∧ (tokens.headD token).StandsIn text ∧
      (tokens.headD token).span.stop ≤ last ∧
      LieWithin text (tokens.headD token).span.start last (tokens ++ [token]) := by
  cases tokens with
  | nil =>
      obtain ⟨begins, stands, ends⟩ := lie
      exact ⟨begins, stands, ends, Nat.le_refl _, stands, ends⟩
  | cons head others =>
      obtain ⟨begins, stands, behind⟩ := lie
      exact ⟨begins, stands, behind.le, Nat.le_refl _, stands, behind⟩

end LieWithin

/-- The tokens that the grammar sees from an offset of a text on stand behind it, one behind the
other, if none of them is malformed. -/
theorem Cursor.lieWithin_tokens {text : List Char} {offset : Nat} (inside : offset ≤ text.length) :
    (∀ token ∈ (ofOffset text offset).tokens, token.isFail = false) →
      LieWithin text offset text.length ((ofOffset text offset).tokens.filter Token.isSeen) := by
  refine offset_induction ?_ ?_ inside
  · intro _
    rw [tokens_end]
    exact ⟨Nat.le_refl _, endToken_standsIn text, Nat.le_refl _⟩
  · intro offset c rest behind others sound
    rw [tokens_ofOffset behind, List.forall_mem_cons] at sound
    have lie := others sound.2
    rw [tokens_ofOffset behind, List.filter_cons]
    split
    · exact ⟨Nat.le_refl _, Lexeme.tokenAt_standsIn behind sound.1, lie⟩
    · exact lie.mono (Nat.le_add_right ..)

end BlockData
