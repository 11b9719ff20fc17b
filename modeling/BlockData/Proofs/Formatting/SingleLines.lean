import BlockData.Proofs.Lexing.Leaves

/-!
# Leaves within a line

No value that a leaf can hold is written over the end of a line, and neither is a comment:
strings escape their line ends, comments are one line, and all other texts are without white
space (`leaf_isVisible`). So the lines of what is printed are those of its layout. No such
text has white space at one of its ends either (`leaf_isTight`, `comment_isTight`).
-/

namespace BlockData

namespace Character

/-- The characters of white space. -/
def whiteSpaceChars : List Char :=
  whiteSpaceRanges.flatMap fun range =>
    (List.range' range.1 (range.2 + 1 - range.1)).map Char.ofNat

/-- White space is one of its characters. -/
theorem mem_whiteSpaceChars {c : Char} (isWhite : isWhiteSpace c = true) :
    c ∈ whiteSpaceChars := by
  obtain ⟨range, listed, lower, upper⟩ := (inRanges_iff whiteSpaceRanges_ascending).mp isWhite
  refine List.mem_flatMap.mpr ⟨range, listed, List.mem_map.mpr ⟨c.toNat, ?_, Char.ofNat_toNat c⟩⟩
  exact List.mem_range'_1.mpr ⟨lower, by omega⟩

/-- A character with a property that no white space has is no white space. -/
theorem isWhiteSpace_eq_false (p : Char → Bool) {c : Char} (holds : p c = true)
    (excluded : whiteSpaceChars.all (fun c => !p c) = true) : isWhiteSpace c = false := by
  rw [Bool.eq_false_iff]
  exact fun isWhite => not_mem_of_all p holds excluded (mem_whiteSpaceChars isWhite)

end Character

open Character (isWhiteSpace isWhiteSpace_eq_false)

/-- What is no white space ends no line. -/
theorem isLineEnd_of_isWhiteSpace {c : Char} (visible : isWhiteSpace c = false) :
    isLineEnd c = false := by
  rw [Bool.eq_false_iff]
  intro ends
  simp only [isLineEnd, Bool.or_eq_true, beq_iff_eq] at ends
  rcases ends with rfl | rfl <;> cases visible

/-- Characters end no line if that is checked of all of them. -/
theorem isLineEnd_of_all {chars : List Char}
    (checked : chars.all (fun c => !isLineEnd c) = true) : ∀ c ∈ chars, isLineEnd c = false := by
  intro c member
  simpa using List.all_eq_true.mp checked c member

/-- A character in quotes is written within a line. -/
theorem escape_isLine (c : Char) : ∀ d ∈ escape c, isLineEnd d = false := by
  refine isLineEnd_of_all ?_
  unfold escape
  split
  · rfl
  split
  · rfl
  split
  · rfl
  split
  · rfl
  split
  · rfl
  split
  · rfl
  · rename_i noLineFeed _ noCarriageReturn _ _ _
    simp [isLineEnd, noLineFeed, noCarriageReturn]

/-- A text in quotes is written within a line. -/
theorem quoteText_isLine (content : String) :
    ∀ c ∈ (quoteText content).toList, isLineEnd c = false := by
  intro c member
  rw [quoteText, String.toList_ofList, quote, List.mem_cons, List.mem_append,
    List.mem_singleton, List.mem_flatMap] at member
  rcases member with rfl | ⟨d, -, member⟩ | rfl
  · rfl
  · exact escape_isLine d c member
  · rfl

/-- A digit is no white space. -/
theorem isWhiteSpace_of_isDigit {c : Char} (digit : c.isDigit = true) : isWhiteSpace c = false :=
  isWhiteSpace_eq_false Char.isDigit digit (by decide)

/-- What continues a symbol is no white space. -/
theorem isWhiteSpace_of_continuesSymbol {run : List Char} (continues : continuesSymbol run = true) :
    ∀ c ∈ run, isWhiteSpace c = false := by
  induction run with
  | nil => exact nofun
  | cons c run inductionHypothesis =>
      rw [continuesSymbol_cons] at continues
      obtain ⟨starts, continues⟩ := continues
      refine List.forall_mem_cons.mpr ⟨?_, inductionHypothesis continues⟩
      rcases starts with word | rfl | rfl | ⟨rfl, -⟩
      · exact isWhiteSpace_eq_false isWordChar word (by decide +kernel)
      · rfl
      · rfl
      · rfl

/-- An integer is written without white space. -/
theorem integer_isVisible (number : Int64) :
    ∀ c ∈ (Value.integer number).display.toList, isWhiteSpace c = false := by
  intro c member
  simp only [toList_display_integer, integerNumeral, Numeral.text, Digits.text, Option.elim_none,
    List.append_nil, List.mem_append, Option.mem_toList, Option.ite_none_right_eq_some] at member
  rcases member with ⟨-, isMinus⟩ | digit
  · obtain rfl := Option.some.inj isMinus
    rfl
  · exact isWhiteSpace_of_isDigit (isDigit_of_mem_toDigits digit)

/-- A finite float is written without white space. -/
theorem float_isVisible {number : Binary64} (finite : number.isFinite = true) :
    ∀ c ∈ (Value.float number).display.toList, isWhiteSpace c = false := by
  obtain ⟨_, whole, fraction, isText, ⟨rfl, -, -, wholeDigits, fractionDigits⟩, -⟩ :=
    Binary64.plainText_isPointLiteral finite
  intro c member
  rw [Value.display, isText, List.mem_append, List.mem_append, List.mem_cons] at member
  rcases member with sign | digit | rfl | digit
  · unfold Binary64.signText at sign
    split at sign
    · obtain rfl := List.mem_singleton.mp sign
      rfl
    · cases sign
  · exact isWhiteSpace_of_isDigit (wholeDigits c digit)
  · rfl
  · exact isWhiteSpace_of_isDigit (fractionDigits c digit)

/-- A symbol is written without white space. -/
theorem symbol_isVisible {content : String} (isSymbol : isSymbolText content = true) :
    ∀ c ∈ content.toList, isWhiteSpace c = false := by
  unfold isSymbolText at isSymbol
  split at isSymbol
  · cases isSymbol
  · rename_i c run isContent
    rw [Bool.and_eq_true] at isSymbol
    rw [isContent]
    refine List.forall_mem_cons.mpr ⟨?_, isWhiteSpace_of_continuesSymbol isSymbol.2⟩
    exact isWhiteSpace_eq_false startsSymbol isSymbol.1 (by decide +kernel)

/-- An operator is written without white space. -/
theorem operator_isVisible {content : String} (isOperator : isOperatorText content = true) :
    ∀ c ∈ content.toList, isWhiteSpace c = false := by
  simp only [isOperatorText, Bool.and_eq_true, List.all_eq_true] at isOperator
  exact fun c member => isWhiteSpace_eq_false isOperatorChar (isOperator.2 c member) (by decide)

/-- Every value that a leaf can hold is written without white space, unless it is a string. -/
theorem leaf_isVisible : ∀ {kind : ValueKind} {value : Option Value} {text : String},
    kind ≠ .string → kind.admits value = true → Node.tokenText (.value kind) value = .ok text →
      ∀ c ∈ text.toList, isWhiteSpace c = false
  | .integer, some (.integer number), _, _, _, rfl => integer_isVisible number
  | .float, some (.float _), _, _, finite, rfl => float_isVisible finite
  | .string, _, _, noString, _, _ => absurd rfl noString
  | .symbol, some (.text _), _, _, isSymbol, rfl => symbol_isVisible isSymbol
  | .operator, some (.text _), _, _, isOperator, rfl => operator_isVisible isOperator
  | .colon, none, _, _, _, rfl => List.forall_mem_singleton.mpr rfl
  | .comma, none, _, _, _, rfl => List.forall_mem_singleton.mpr rfl
  | .period, none, _, _, _, rfl => List.forall_mem_singleton.mpr rfl

/-- A string is written as a text in quotes. -/
theorem exists_of_tokenText_string {value : Option Value} {text : String}
    (isText : Node.tokenText (.value .string) value = .ok text) :
    ∃ content, text = quoteText content := by
  rcases value with _ | (_ | _ | content) <;> cases isText
  exact ⟨content, rfl⟩

/-- Every value that a leaf can hold is written within a line. -/
theorem leaf_isLine {kind : ValueKind} {value : Option Value} {text : String}
    (admitted : kind.admits value = true) (isText : Node.tokenText (.value kind) value = .ok text) :
    ∀ c ∈ text.toList, isLineEnd c = false := by
  by_cases isString : kind = .string
  · subst isString
    obtain ⟨content, rfl⟩ := exists_of_tokenText_string isText
    exact quoteText_isLine content
  · exact fun c member =>
      isLineEnd_of_isWhiteSpace (leaf_isVisible isString admitted isText c member)

/-- The content of a comment is written within a line. -/
theorem comment_isLine {content : String} (isComment : isCommentText content = true) :
    ∀ c ∈ content.toList, isLineEnd c = false := by
  simp only [isCommentText, Bool.and_eq_true, List.all_eq_true, bne_iff_ne] at isComment
  intro c member
  simpa [isLineEnd] using isComment.2 c member

/-- Characters that may end a line: none of them is a line end, and the last one is no white
space. -/
structure IsLineRest (rest : List Char) : Prop where
  inLine : ∀ c ∈ rest, isLineEnd c = false
  ends : ∀ c ∈ rest.getLast?, isWhiteSpace c = false

/-- Characters that may be a line: none of them is a line end, and neither the first one nor the
last one is white space. -/
structure IsTight (text : List Char) : Prop extends IsLineRest text where
  starts : ∃ c ∈ text.head?, isWhiteSpace c = false

/-- The end of a line may be empty. -/
theorem isLineRest_nil : IsLineRest [] :=
  ⟨nofun, nofun⟩

namespace IsTight

/-- Characters without white space may be a line. -/
theorem of_visible {text : List Char} (nonempty : text ≠ [])
    (visible : ∀ c ∈ text, isWhiteSpace c = false) : IsTight text where
  inLine := fun c member => isLineEnd_of_isWhiteSpace (visible c member)
  ends := fun c isLast => visible c (List.mem_of_getLast? isLast)
  starts :=
    ⟨text.head nonempty, List.head?_eq_some_head nonempty, visible _ (List.head_mem nonempty)⟩

/-- The end of a line may stand behind what may be a line. -/
theorem append {text rest : List Char} (tight : IsTight text) (isRest : IsLineRest rest) :
    IsTight (text ++ rest) where
  inLine := fun c member => (List.mem_append.mp member).elim (tight.inLine c) (isRest.inLine c)
  ends := by
    rw [List.getLast?_append]
    cases isLast : rest.getLast? with
    | none => exact tight.ends
    | some last => exact fun c isEnd => isRest.ends c (isLast.trans isEnd)
  starts := by
    obtain ⟨c, isFirst, visible⟩ := tight.starts
    refine ⟨c, ?_, visible⟩
    rw [Option.mem_def, List.head?_append, Option.mem_def.mp isFirst, Option.some_or]

/-- What may be a line may stand behind spaces at the end of one. -/
theorem behindSpaces {text : List Char} (tight : IsTight text) (count : Nat) :
    IsLineRest (List.replicate count ' ' ++ text) where
  inLine := by
    intro c member
    rcases List.mem_append.mp member with space | member
    · rw [List.eq_of_mem_replicate space]
      rfl
    · exact tight.inLine c member
  ends := by
    obtain ⟨c, isFirst, -⟩ := tight.starts
    have nonempty : text ≠ [] := List.ne_nil_of_mem (List.mem_of_head? isFirst)
    have isLast := List.getLast?_eq_some_getLast nonempty
    rw [List.getLast?_append, isLast, Option.some_or, ← isLast]
    exact tight.ends

end IsTight

/-- A single character that is no white space may be a line. -/
theorem isTight_singleton {c : Char} (visible : isWhiteSpace c = false) : IsTight [c] :=
  .of_visible (List.cons_ne_nil c []) (List.forall_mem_cons.mpr ⟨visible, nofun⟩)

/-- A text in quotes has no white space at its ends. -/
theorem quoteText_isTight (content : String) : IsTight (quoteText content).toList where
  inLine := quoteText_isLine content
  ends := by
    rw [quoteText, String.toList_ofList, quote, ← List.cons_append, List.getLast?_concat]
    rintro c ⟨rfl⟩
    rfl
  starts := by
    rw [quoteText, String.toList_ofList, quote]
    exact ⟨'"', rfl, rfl⟩

/-- Every value that a leaf can hold is written without white space at its ends. -/
theorem leaf_isTight {kind : ValueKind} {value : Option Value} {text : String}
    (admitted : kind.admits value = true) (isText : Node.tokenText (.value kind) value = .ok text) :
    IsTight text.toList := by
  by_cases isString : kind = .string
  · subst isString
    obtain ⟨content, rfl⟩ := exists_of_tokenText_string isText
    exact quoteText_isTight content
  · refine .of_visible ?_ (leaf_isVisible isString admitted isText)
    -- what is read as the value is not empty
    obtain ⟨other, isOther, reads⟩ := leaf_readsAs admitted
    obtain rfl : other = text := Except.ok.inj (isOther.symm.trans isText)
    obtain ⟨⟨c, others, isCons, -⟩, -⟩ := reads [] nofun
    rw [isCons]
    exact List.cons_ne_nil c others

/-- A comment is written without white space at its ends. -/
theorem comment_isTight {content text : String} (isComment : isCommentText content = true)
    (isText : Node.tokenText .comment (some (.text content)) = .ok text) :
    IsTight text.toList := by
  obtain rfl := Except.ok.inj isText
  split
  · exact isTight_singleton rfl
  · rename_i nonempty
    have filled : content.toList ≠ [] := by simpa using nonempty
    have trimmed : Character.trim content.toList = content.toList := by
      simp only [isCommentText, Bool.and_eq_true, beq_iff_eq] at isComment
      exact isComment.1
    have noStart : content.toList.dropWhile isWhiteSpace = content.toList := by
      rw [← trimmed, Character.dropWhile_trim]
    rw [Character.trim_eq_rdropWhile, noStart, List.rdropWhile_eq_self_iff] at trimmed
    rw [String.toList_append]
    refine ⟨⟨?_, ?_⟩, '#', rfl, rfl⟩
    · intro c member
      rcases List.mem_append.mp member with mark | member
      · exact isLineEnd_of_all rfl c mark
      · exact comment_isLine isComment c member
    · rw [List.getLast?_append, List.getLast?_eq_some_getLast filled]
      rintro c ⟨rfl⟩
      exact Bool.eq_false_iff.mpr (trimmed filled)

end BlockData
