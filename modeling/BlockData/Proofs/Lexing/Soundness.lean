import BlockData.Lexeme.Reading
import BlockData.Node.WellFormed
import BlockData.Proofs.Number.Bits
import Mathlib.Data.List.DropRight

/-!
# Soundness of words

A word is a token without its place. Whatever a text is, its lexemes carry values that
fit their kinds: a value leaf could hold the value of its word, a comment is one line
without white space around it, and malformed input gives its reason.
-/

namespace BlockData

/-- A token without its place. -/
structure Word where
  kind : Kind
  value : Option Value
deriving DecidableEq

/-- The word of a lexeme. -/
def Lexeme.word (lexeme : Lexeme) : Word :=
  ⟨lexeme.kind, lexeme.value⟩

/-- Whether the value of a word fits its kind. -/
def Word.IsSound : Word → Prop
  | ⟨.value kind, value⟩ => kind.admits value = true
  | ⟨.comment, value⟩ => ∃ content, value = some (.text content) ∧ isCommentText content = true
  | ⟨.fail, value⟩ => ∃ flaw : Flaw, value = some (.text flaw.message)
  | ⟨.eof, _⟩ => False
  | ⟨_, value⟩ => value = none

namespace Character

/-- Trimming in two steps, from the left and then from the right. -/
theorem trim_eq_rdropWhile (text : List Char) :
    trim text = (text.dropWhile isWhiteSpace).rdropWhile isWhiteSpace :=
  rfl

/-- A trimmed text starts with no white space. -/
theorem dropWhile_trim (text : List Char) : (trim text).dropWhile isWhiteSpace = trim text := by
  have starts : (text.dropWhile isWhiteSpace).dropWhile isWhiteSpace =
      text.dropWhile isWhiteSpace := List.dropWhile_idempotent isWhiteSpace _
  have isHead : trim text <+: text.dropWhile isWhiteSpace := List.rdropWhile_prefix isWhiteSpace _
  rw [List.dropWhile_eq_self_iff] at starts ⊢
  intro nonempty
  rw [isHead.getElem nonempty]
  exact starts _

/-- A trimmed text has nothing to trim. -/
theorem trim_trim (text : List Char) : trim (trim text) = trim text := by
  rw [trim_eq_rdropWhile (trim text), dropWhile_trim, trim_eq_rdropWhile,
    List.rdropWhile_idempotent]

/-- A trimmed text is a piece of the text. -/
theorem trim_sublist (text : List Char) : (trim text).Sublist text := by
  unfold trim
  have behind := List.dropWhile_sublist isWhiteSpace (l := (text.dropWhile isWhiteSpace).reverse)
  exact ((List.reverse_sublist.mpr behind).trans (by rw [List.reverse_reverse])).trans
    (List.dropWhile_sublist _)

end Character

/-- What may stand in a symbol behind its first character, with the text behind it. -/
theorem continuesSymbol_cons (c : Char) (rest : List Char) :
    continuesSymbol (c :: rest) = true ↔
      (isWordChar c ∨ c = '?' ∨ c = '!' ∨ (c = '-' ∧ rest.head?.any Character.isAlphanumeric)) ∧
        continuesSymbol rest = true := by
  by_cases hyphen : c = '-'
  · subst hyphen
    have noWord : isWordChar '-' = false := by decide
    simp [continuesSymbol, noWord]
  · simp [continuesSymbol, hyphen, or_assoc]

/-- The run of a symbol is what continues a symbol. -/
theorem continuesSymbol_take_symbolRun (text : List Char) :
    continuesSymbol (text.take (symbolRun text)) = true := by
  induction text with
  | nil => rfl
  | cons c rest inductionHypothesis =>
      rw [symbolRun]
      split
      · rename_i continued
        rw [List.take_succ_cons, continuesSymbol_cons]
        refine ⟨?_, inductionHypothesis⟩
        rcases continued with word | question | mark | ⟨hyphen, before⟩
        · exact .inl word
        · exact .inr (.inl question)
        · exact .inr (.inr (.inl mark))
        · refine .inr (.inr (.inr ⟨hyphen, ?_⟩))
          -- the character behind the hyphen belongs to the run as well
          cases rest with
          | nil => cases before
          | cons d others =>
              have word : isWordChar d = true := by
                rw [isWordChar, Bool.or_eq_true]
                exact .inl before
              rw [symbolRun, if_pos (.inl word), List.take_succ_cons]
              exact before
      · rfl

/-- The kinds of single characters. -/
theorem isSound_of_singleKind? {c : Char} {kind : Kind} (single : singleKind? c = some kind) :
    Word.IsSound ⟨kind, none⟩ := by
  unfold singleKind? at single
  split at single
  · cases single
    rfl
  · cases single
    rfl
  · cases single
    rfl
  · cases single
    rfl
  · rw [Option.or_eq_some_iff, Option.map_eq_some_iff, Option.map_eq_some_iff] at single
    rcases single with ⟨delimiter, -, rfl⟩ | ⟨-, delimiter, -, rfl⟩
    · rfl
    · rfl

/-- What the first characters of a text say about it. -/
theorem Lead.of_spec {c : Char} {next : Option Char} {lead : Lead}
    (isLead : Lead.of c next = lead) :
    match lead with
    | .single kind => singleKind? c = some kind
    | .letter => Character.isAlphabetic c = true ∨ c = '_'
    | .operator => isOperatorChar c = true
    | _ => True := by
  unfold Lead.of at isLead
  repeat' split at isLead
  all_goals
    cases isLead
    trivial

namespace Numeral

/-- An integer literal denotes an integer, and a float literal a finite number. -/
theorem admits_value {numeral : Numeral} {denoted : Value}
    (isValue : numeral.value = .ok denoted) :
    ValueKind.admits (if numeral.isFloat then .float else .integer) (some denoted) = true := by
  unfold value at isValue
  split at isValue
  · rename_i mark digits body
    have isInteger : numeral.isFloat = false := by rw [isFloat, body]
    unfold integerValue at isValue
    split at isValue
    · cases isValue
      rw [isInteger]
      rfl
    · cases isValue
  · rename_i whole fraction exponent body
    split at isValue
    · rename_i isFloat
      dsimp only at isValue
      split at isValue
      · rename_i finite
        cases isValue
        rw [if_pos isFloat]
        exact Binary64.isFinite_ofMagnitude finite
      · cases isValue
    · rename_i isInteger
      unfold integerValue at isValue
      split at isValue
      · cases isValue
        rw [if_neg isInteger]
        rfl
      · cases isValue

end Numeral

namespace Lexeme

/-- A number is sound. -/
theorem readNumber_isSound (text : List Char) : (readNumber text).word.IsSound := by
  unfold readNumber
  dsimp only
  split
  · exact ⟨_, rfl⟩
  · split
    · rename_i value isValue
      exact Numeral.admits_value isValue
    · exact ⟨_, rfl⟩

/-- Every lexeme is sound. -/
theorem read_isSound (c : Char) (rest : List Char) : (read c rest).word.IsSound := by
  unfold read
  split
  case h_1 => exact rfl
  case h_2 => exact rfl
  case h_3 =>
    unfold readContinuation
    split
    · exact ⟨_, rfl⟩
    · exact rfl
  case h_4 kind lead => exact isSound_of_singleKind? (Lead.of_spec lead)
  case h_5 =>
    refine ⟨_, rfl, ?_⟩
    rw [isCommentText, String.toList_ofList, Character.trim_trim, beq_self_eq_true, Bool.true_and,
      List.all_eq_true]
    intro d member
    have inLine := List.mem_takeWhile_imp ((Character.trim_sublist _).mem member)
    simpa [isLineEnd] using inLine
  case h_6 =>
    unfold readString
    split
    · exact rfl
    · exact ⟨_, rfl⟩
    · exact ⟨_, rfl⟩
    · exact ⟨_, rfl⟩
  case h_7 => exact readNumber_isSound (c :: rest)
  case h_8 lead =>
    have starts := Lead.of_spec lead
    have isSymbol : isSymbolText (String.ofList (c :: rest.take (symbolRun rest))) = true := by
      rw [isSymbolText, String.toList_ofList]
      simp only [Bool.and_eq_true, Bool.or_eq_true, beq_iff_eq]
      exact ⟨starts, continuesSymbol_take_symbolRun rest⟩
    exact isSymbol
  case h_9 lead =>
    have starts := Lead.of_spec lead
    have isOperator :
        isOperatorText (String.ofList (c :: rest.takeWhile isOperatorChar)) = true := by
      simp [isOperatorText, starts]
    exact isOperator
  case h_10 => exact ⟨_, rfl⟩

end Lexeme

end BlockData
