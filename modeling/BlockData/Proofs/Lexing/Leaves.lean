import BlockData.Node.Canonical
import BlockData.Proofs.Lexing.Numbers

/-!
# Reading leaves

Every leaf that a well-formed tree may hold is written as a text that is read as the
word of the leaf: in front of white space, and for a comment at the end of a line
(`leaf_readsAs`, `comment_readsAs`).
-/

namespace BlockData

/-- The characters that start something else than a number, a symbol or an operator. -/
def reservedChars : List Char :=
  [' ', '\t', '\n', '\r', '\\', '#', '"', '\'', ';', ':', ',', '.', '\x7b', '(', '[', '\x7d', ')',
   ']']

/-- A character that is not reserved is no token of its own. -/
theorem singleKind?_of_unreserved {c : Char} (unreserved : c ∉ reservedChars) :
    singleKind? c = none := by
  simp only [reservedChars, List.mem_cons, List.not_mem_nil, or_false, not_or] at unreserved
  obtain ⟨-, -, -, -, -, -, -, -, semicolon, colon, comma, period, brackets⟩ := unreserved
  have noOpening : Delimiter.ofOpenChar? c = none := by
    simp only [Delimiter.ofOpenChar?, List.find?_eq_none, beq_iff_eq]
    rintro delimiter - rfl
    cases delimiter <;> simp [Delimiter.openChar] at brackets
  have noClosing : Delimiter.ofCloseChar? c = none := by
    simp only [Delimiter.ofCloseChar?, List.find?_eq_none, beq_iff_eq]
    rintro delimiter - rfl
    cases delimiter <;> simp [Delimiter.closeChar] at brackets
  unfold singleKind?
  split
  · exact absurd rfl semicolon
  · exact absurd rfl colon
  · exact absurd rfl comma
  · exact absurd rfl period
  · rw [noOpening, noClosing]
    rfl

/-- Any other character starts a number, a symbol or an operator, or nothing. -/
theorem Lead.of_unreserved {c : Char} (unreserved : c ∉ reservedChars) (next : Option Char) :
    Lead.of c next =
      if c.isDigit ∨ ((c = '+' ∨ c = '-') ∧ next.any Char.isDigit) then .number
      else if Character.isAlphabetic c ∨ c = '_' then .letter
      else if isOperatorChar c then .operator
      else .stranger := by
  have single := singleKind?_of_unreserved unreserved
  simp only [reservedChars, List.mem_cons, List.not_mem_nil, or_false, not_or] at unreserved
  obtain ⟨space, tab, lineFeed, carriageReturn, backslash, hash, double, quote, -⟩ := unreserved
  simp only [Lead.of, single, space, tab, lineFeed, carriageReturn, backslash, hash, double, quote,
    or_self, if_false]

/-- A character with a property is none of some characters that lack it. -/
theorem not_mem_of_all (p : Char → Bool) {c : Char} {chars : List Char} (holds : p c = true)
    (excluded : chars.all (fun c => !p c) = true) : c ∉ chars := by
  intro member
  have fails := List.all_eq_true.mp excluded c member
  simp [holds] at fails

/-- What a lexeme is read as when nothing of its text is left. -/
theorem ReadsAs.of_read {c : Char} {others rest : List Char} {lexeme : Lexeme}
    (read : Lexeme.read c (others ++ rest) = lexeme) (length : lexeme.length = others.length + 1)
    (kept : lexeme.kind ∉ ignoredKinds) : ReadsAs (c :: others) lexeme.word rest :=
  ⟨⟨c, others, rfl, by rw [read], by rw [read, length, List.length_cons]⟩, kept⟩

/-- A character that is a token of its own is read as that token. -/
theorem single_readsAs {c : Char} {kind : Kind} (lead : ∀ next, Lead.of c next = .single kind)
    (kept : kind ∉ ignoredKinds) (rest : List Char) : ReadsAs [c] ⟨kind, none⟩ rest := by
  have read : Lexeme.read c ([] ++ rest) = .plain kind 1 := by
    rw [List.nil_append, Lexeme.read, lead]
  exact ReadsAs.of_read read rfl kept

/-- An opening bracket is read as such. -/
theorem opening_readsAs (delimiter : Delimiter) (rest : List Char) :
    ReadsAs [delimiter.openChar] ⟨.opening delimiter, none⟩ rest := by
  refine single_readsAs (fun next => ?_) (by simp [ignoredKinds]) rest
  cases delimiter <;> rfl

/-- A closing bracket is read as such. -/
theorem closing_readsAs (delimiter : Delimiter) (rest : List Char) :
    ReadsAs [delimiter.closeChar] ⟨.closing delimiter, none⟩ rest := by
  refine single_readsAs (fun next => ?_) (by simp [ignoredKinds]) rest
  cases delimiter <;> rfl

/-- A character in quotes is read as it is meant. -/
theorem readQuoted_escape (c : Char) (rest : List Char) :
    readQuoted '"' (escape c ++ rest) = (readQuoted '"' rest).after (escape c).length c := by
  unfold escape
  split
  · rename_i same
    rw [same]
    rfl
  split
  · rename_i same
    rw [same]
    rfl
  split
  · rename_i same
    rw [same]
    rfl
  split
  · rename_i same
    rw [same]
    rfl
  split
  · rename_i same
    rw [same]
    rfl
  split
  · rename_i same
    rw [same]
    rfl
  · rename_i noBackslash noQuote
    rw [List.cons_append, List.nil_append, readQuoted, if_neg noQuote, List.length_singleton]
    all_goals simp [noBackslash]

/-- A text in quotes is read as it is meant. -/
theorem readQuoted_flatMap_escape (content rest : List Char) :
    readQuoted '"' (content.flatMap escape ++ '"' :: rest) =
      .closed content ((content.flatMap escape).length + 1) := by
  induction content with
  | nil => simp [readQuoted]
  | cons c content inductionHypothesis =>
      rw [List.flatMap_cons, List.append_assoc, readQuoted_escape, inductionHypothesis,
        QuotedReading.after, List.length_append]
      congr 1
      omega

/-- A text in quotes is read as the word of the text. -/
theorem string_readsAs (content : String) (rest : List Char) :
    ReadsAs (quoteText content).toList ⟨.value .string, some (.text content)⟩ rest := by
  have read : Lexeme.read '"' (content.toList.flatMap escape ++ ['"'] ++ rest) =
      .texted (.value .string) content.toList ((content.toList.flatMap escape).length + 2) := by
    have closed := readQuoted_flatMap_escape content.toList rest
    have lead : ∀ next, Lead.of '"' next = .quote := fun next => rfl
    rw [Lexeme.read, lead, List.append_assoc]
    simp only [List.cons_append, List.nil_append, Lexeme.readString, closed]
  have reads :=
    ReadsAs.of_read read (by simp [Lexeme.texted]) (by simp [Lexeme.texted, ignoredKinds])
  rw [quoteText, String.toList_ofList, quote]
  simpa [Lexeme.texted, Lexeme.word] using reads

/-- Characters of a line behind a hash are read as a comment without the white space
around them. -/
theorem hash_readsAs (written : List Char) {rest : List Char}
    (inLine : ∀ c ∈ written, isLineEnd c = false)
    (lineEnds : ∀ c ∈ rest.head?, isLineEnd c = true) :
    ReadsAs ('#' :: written)
      ⟨.comment, some (.text (String.ofList (Character.trim written)))⟩ rest := by
  have line : (written ++ rest).takeWhile (fun c => !isLineEnd c) = written := by
    rw [List.takeWhile_append_of_pos (by simpa using inLine)]
    cases rest with
    | nil => simp
    | cons c others => simp [lineEnds c rfl]
  have read : Lexeme.read '#' (written ++ rest) =
      .texted .comment (Character.trim written) (written.length + 1) := by
    have lead : ∀ next, Lead.of '#' next = .hash := fun next => rfl
    rw [Lexeme.read, lead]
    simp only [Lexeme.readComment, line]
  exact ReadsAs.of_read read rfl (by simp [Lexeme.texted, ignoredKinds])

/-- A comment at the end of a line is read as it is written. -/
theorem comment_readsAs {content : String} (isComment : isCommentText content = true)
    {rest : List Char} (lineEnds : ∀ c ∈ rest.head?, isLineEnd c = true) :
    ReadsAs (if content = "" then "#" else "# " ++ content).toList
      ⟨.comment, some (.text content)⟩ rest := by
  by_cases empty : content = ""
  · have reads := hash_readsAs [] (by simp) lineEnds
    rw [if_pos empty, empty]
    exact reads
  · simp only [isCommentText, Bool.and_eq_true, beq_iff_eq, List.all_eq_true,
      bne_iff_ne] at isComment
    obtain ⟨trimmed, inLine⟩ := isComment
    have spaced : ∀ c ∈ ' ' :: content.toList, isLineEnd c = false := by
      intro c member
      rcases List.mem_cons.mp member with rfl | member
      · rfl
      · simpa [isLineEnd] using inLine c member
    have unspaced : Character.trim (' ' :: content.toList) = content.toList := trimmed
    have reads := hash_readsAs _ spaced lineEnds
    rw [unspaced, String.ofList_toList] at reads
    rw [if_neg empty, String.toList_append]
    exact reads

/-- Whether a character may start a symbol. -/
def startsSymbol (c : Char) : Bool :=
  Character.isAlphabetic c || c == '_'

/-- What starts a symbol leads a symbol. -/
theorem Lead.of_letter {c : Char} (starts : Character.isAlphabetic c = true ∨ c = '_')
    (next : Option Char) : Lead.of c next = .letter := by
  have holds : startsSymbol c = true := by simpa [startsSymbol] using starts
  have unreserved : c ∉ reservedChars := not_mem_of_all startsSymbol holds rfl
  have noDigit : c ∉ "0123456789".toList := not_mem_of_all startsSymbol holds rfl
  have noSign : c ∉ ['+', '-'] := not_mem_of_all startsSymbol holds rfl
  rw [Lead.of_unreserved unreserved, if_neg, if_pos starts]
  rintro (digit | ⟨sign, -⟩)
  · exact noDigit (mem_of_isDigit digit)
  · exact noSign (by simpa using sign)

/-- The characters of operators are no digits. -/
theorem isDigit_of_isOperatorChar {c : Char} (operator : isOperatorChar c = true) :
    c.isDigit = false := by
  rw [Bool.eq_false_iff]
  intro digit
  have excluded : c ∉ "+-*/%=<>!&|^~@$?".toList := not_mem_of_all Char.isDigit digit rfl
  exact excluded (List.contains_iff_mem.mp operator)

/-- The characters of operators start no symbol. -/
theorem not_letter_of_isOperatorChar {c : Char} (operator : isOperatorChar c = true) :
    ¬(Character.isAlphabetic c = true ∨ c = '_') := by
  intro starts
  have holds : startsSymbol c = true := by simpa [startsSymbol] using starts
  have excluded : c ∉ "+-*/%=<>!&|^~@$?".toList := not_mem_of_all startsSymbol holds rfl
  exact excluded (List.contains_iff_mem.mp operator)

/-- What starts an operator leads an operator, unless it is the sign of a number. -/
theorem Lead.of_operator {c : Char} (starts : isOperatorChar c = true) {next : Option Char}
    (noDigit : next.any Char.isDigit = false) : Lead.of c next = .operator := by
  have unreserved : c ∉ reservedChars := not_mem_of_all isOperatorChar starts rfl
  rw [Lead.of_unreserved unreserved, if_neg, if_neg (not_letter_of_isOperatorChar starts),
    if_pos starts]
  rintro (digit | ⟨-, digit⟩)
  · rw [isDigit_of_isOperatorChar starts] at digit
    cases digit
  · rw [noDigit] at digit
    cases digit

/-- What continues a symbol is read on up to a detached text. -/
theorem symbolRun_append {run rest : List Char} (continues : continuesSymbol run = true)
    (detached : IsDetached rest) : symbolRun (run ++ rest) = run.length := by
  induction run with
  | nil =>
      cases rest with
      | nil => rfl
      | cons c others =>
          rcases detached c rfl with rfl | rfl
          · simp [symbolRun, show isWordChar ' ' = false by decide]
          · simp [symbolRun, show isWordChar '\n' = false by decide]
  | cons c run inductionHypothesis =>
      rw [continuesSymbol_cons] at continues
      obtain ⟨starts, continues⟩ := continues
      have stays : isWordChar c ∨ c = '?' ∨ c = '!' ∨
          (c = '-' ∧ (run ++ rest).head?.any Character.isAlphanumeric) := by
        rcases starts with word | question | mark | ⟨hyphen, before⟩
        · exact .inl word
        · exact .inr (.inl question)
        · exact .inr (.inr (.inl mark))
        · refine .inr (.inr (.inr ⟨hyphen, ?_⟩))
          cases run with
          | nil => cases before
          | cons d run => exact before
      rw [List.cons_append, symbolRun, if_pos stays, inductionHypothesis continues,
        List.length_cons]

/-- A symbol in front of a detached text is read as it is written. -/
theorem symbol_readsAs {content : String} (isSymbol : isSymbolText content = true)
    {rest : List Char} (detached : IsDetached rest) :
    ReadsAs content.toList ⟨.value .symbol, some (.text content)⟩ rest := by
  unfold isSymbolText at isSymbol
  split at isSymbol
  · cases isSymbol
  · rename_i c run isContent
    simp only [Bool.and_eq_true, Bool.or_eq_true, beq_iff_eq] at isSymbol
    obtain ⟨starts, continues⟩ := isSymbol
    have lead : Lead.of c (run ++ rest).head? = .letter := Lead.of_letter starts _
    have length := symbolRun_append continues detached
    have read : Lexeme.read c (run ++ rest) =
        .texted (.value .symbol) content.toList (run.length + 1) := by
      rw [Lexeme.read, lead]
      simp only [length, List.take_left, isContent]
    have reads := ReadsAs.of_read read rfl (by simp [Lexeme.texted, ignoredKinds])
    rw [isContent]
    simpa [Lexeme.texted, Lexeme.word] using reads

/-- An operator in front of a detached text is read as it is written. -/
theorem operator_readsAs {content : String} (isOperator : isOperatorText content = true)
    {rest : List Char} (detached : IsDetached rest) :
    ReadsAs content.toList ⟨.value .operator, some (.text content)⟩ rest := by
  simp only [isOperatorText, Bool.and_eq_true, Bool.not_eq_true', String.isEmpty_eq_false_iff,
    List.all_eq_true] at isOperator
  obtain ⟨nonempty, areOperators⟩ := isOperator
  have filled : content.toList ≠ [] := by simpa using nonempty
  obtain ⟨c, run, isContent⟩ := List.exists_cons_of_ne_nil filled
  rw [isContent] at areOperators
  have inRun : ∀ d ∈ run, isOperatorChar d = true :=
    fun d member => areOperators d (List.mem_cons_of_mem _ member)
  have noDigit : (run ++ rest).head?.any Char.isDigit = false := by
    cases run with
    | cons d run => exact isDigit_of_isOperatorChar (inRun d List.mem_cons_self)
    | nil =>
        cases rest with
        | nil => rfl
        | cons d others => rcases detached d rfl with rfl | rfl <;> rfl
  have lead := Lead.of_operator (areOperators c List.mem_cons_self) noDigit
  have taken := detached.takeWhile_append inRun (by decide) (by decide)
  have read : Lexeme.read c (run ++ rest) =
      .texted (.value .operator) content.toList (run.length + 1) := by
    rw [Lexeme.read, lead]
    simp only [taken, isContent, List.length_cons]
  have reads := ReadsAs.of_read read rfl (by simp [Lexeme.texted, ignoredKinds])
  rw [isContent]
  simpa [Lexeme.texted, Lexeme.word] using reads

/-- Every value that a leaf can hold is written as a text that is read as the value. -/
theorem leaf_readsAs : ∀ {kind : ValueKind} {value : Option Value}, kind.admits value = true →
    ∃ text, Node.tokenText (.value kind) value = .ok text ∧
      ∀ rest, IsDetached rest → ReadsAs text.toList ⟨.value kind, value⟩ rest
  | .integer, some (.integer number), _ =>
      ⟨_, rfl, fun _ detached => integer_readsAs number detached⟩
  | .float, some (.float _), finite => ⟨_, rfl, fun _ detached => float_readsAs finite detached⟩
  | .string, some (.text content), _ => ⟨_, rfl, fun rest _ => string_readsAs content rest⟩
  | .symbol, some (.text _), isSymbol =>
      ⟨_, rfl, fun _ detached => symbol_readsAs isSymbol detached⟩
  | .operator, some (.text _), isOperator =>
      ⟨_, rfl, fun _ detached => operator_readsAs isOperator detached⟩
  | .colon, none, _ => ⟨_, rfl, fun rest _ => single_readsAs (fun _ => rfl) (by decide) rest⟩
  | .comma, none, _ => ⟨_, rfl, fun rest _ => single_readsAs (fun _ => rfl) (by decide) rest⟩
  | .period, none, _ => ⟨_, rfl, fun rest _ => single_readsAs (fun _ => rfl) (by decide) rest⟩

end BlockData
