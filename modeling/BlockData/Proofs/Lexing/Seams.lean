import BlockData.Proofs.Lexing.Separators
import BlockData.Proofs.Lexing.Stream

/-!
# Seams of texts

A text may be cut behind any of its lexemes. If none of the lexemes in front of the cut is
malformed, and what stands behind it is replaced by a separated text, then the lexemes in
front are read as before (`Lexeme.read_congr`): only white space, line breaks and comments
may go on with a separator (`Kind.joins`).
-/

namespace BlockData

/-- Whether a token of some kind goes on with a character behind its end. -/
def Kind.joins : Kind → Char → Bool
  | .trivia .whitespace, c => isBlank c
  | .trivia .escapedNewline, c => c == '\n'
  | .terminator .newline, c => c == '\n'
  | .comment, c => !isLineEnd c
  | _, _ => false

/-- Behind a first character only the digits that follow a sign matter. -/
theorem Lead.of_congr {c : Char} {next other : Option Char}
    (sameDigit : c = '+' ∨ c = '-' → next.any Char.isDigit = other.any Char.isDigit) :
    Lead.of c next = Lead.of c other := by
  have same : ((c = '+' ∨ c = '-') ∧ next.any Char.isDigit = true) ↔
      ((c = '+' ∨ c = '-') ∧ other.any Char.isDigit = true) :=
    and_congr_right fun sign => by rw [sameDigit sign]
  simp only [Lead.of, same]

/-- A sign before a digit is read as part of a number. -/
theorem Numeral.read_sign_digit {c d : Char} (sign : c = '+' ∨ c = '-') (digit : d.isDigit = true)
    (rest : List Char) :
    (Numeral.read (c :: d :: rest)).text = c :: (Numeral.read (d :: rest)).text := by
  have unsigned := readSign_digit digit rest
  have signed : readSign (c :: d :: rest) = (some c, d :: rest) := by
    rcases sign with rfl | rfl <;> rfl
  simp only [Numeral.read, Numeral.text, signed, unsigned, Option.toList_some,
    Option.toList_none, List.cons_append, List.nil_append]

/-- A sign before a digit leads a number. -/
theorem Lead.of_sign {c d : Char} (sign : c = '+' ∨ c = '-') (digit : d.isDigit = true) :
    Lead.of c (some d) = .number := by
  rcases sign with rfl | rfl
  · have single : singleKind? '+' = none := rfl
    simp [Lead.of, single, digit]
  · exact Lead.of_minus digit

namespace Lexeme

variable {c : Char} {others rest other : List Char}

/-- A continuation is read in the same way in front of another text. -/
theorem readContinuation_congr (sound : (readContinuation (others ++ rest)).kind ≠ .fail)
    (within : (readContinuation (others ++ rest)).length ≤ others.length + 1)
    (stops : (readContinuation (others ++ rest)).length = others.length + 1 →
      StartsOutside (readContinuation (others ++ rest)).kind.joins other rest) :
    readContinuation (others ++ other) = readContinuation (others ++ rest) := by
  unfold readContinuation at sound within stops
  split at sound
  · exact absurd rfl sound
  · rename_i width isWidth
    simp only [isWidth, plain] at within stops
    have nonempty : others ≠ [] := by
      rintro rfl
      simp at within
    have same : lineBreakLength (others ++ other) = lineBreakLength (others ++ rest) :=
      lineBreakLength_congr nonempty (by omega) fun isEnd => stops (by omega)
    rw [readContinuation, readContinuation, same]

/-- A comment is read in the same way in front of another text. -/
theorem readComment_congr (within : (readComment (others ++ rest)).length ≤ others.length + 1)
    (stops : (readComment (others ++ rest)).length = others.length + 1 →
      StartsOutside (fun c => !isLineEnd c) other rest) :
    readComment (others ++ other) = readComment (others ++ rest) := by
  simp only [readComment, texted] at within stops
  have sameLine : (others ++ other).takeWhile (fun c => !isLineEnd c) =
      (others ++ rest).takeWhile fun c => !isLineEnd c :=
    takeWhile_append_congr (Nat.le_of_succ_le_succ within) fun isEnd =>
      stops (congrArg Nat.succ isEnd)
  rw [readComment, readComment, sameLine]

/-- A string that ends within some characters is read in the same way in front of another
text. -/
theorem readString_congr (decided : (readQuoted c (others ++ rest)).isDecided = true)
    (within : (readString c (others ++ rest)).length ≤ others.length + 1) (other : List Char) :
    readString c (others ++ other) = readString c (others ++ rest) := by
  have same : (readQuoted c (others ++ rest)).extent ≤ others.length →
      readQuoted c (others ++ other) = readQuoted c (others ++ rest) :=
    fun ends => readQuoted_congr decided ends other
  unfold readString at within ⊢
  cases reading : readQuoted c (others ++ rest) with
  | closed content length =>
      simp only [reading, texted] at within same
      rw [same (Nat.le_of_succ_le_succ within)]
  | unknownEscape place unknown =>
      simp only [reading, malformed] at within same
      rw [same (Nat.le_of_succ_le_succ within)]
  | _ =>
      rw [reading] at decided
      cases decided

/-- A string that is not malformed is closed. -/
theorem isDecided_of_sound {text : List Char} (sound : (readString c text).kind ≠ .fail) :
    (readQuoted c text).isDecided = true := by
  unfold readString at sound
  split at sound
  · rename_i closed
    rw [closed]
    rfl
  · exact absurd rfl sound
  · exact absurd rfl sound
  · exact absurd rfl sound

/-- A number takes its text and the word that it runs into. -/
theorem length_readNumber (text : List Char) :
    (readNumber text).length = (Numeral.read text).text.length +
      ((text.drop (Numeral.read text).text.length).takeWhile isWordChar).length := by
  unfold readNumber
  dsimp only
  split
  · rw [malformed, List.length_append]
  · rename_i alone
    rw [not_not.mp alone, List.length_nil, Nat.add_zero]
    split <;> rfl

/-- A number is read in the same way in front of a separated text. -/
theorem readNumber_congr {front : List Char} (nonempty : front ≠ [])
    (within : (readNumber (front ++ rest)).length ≤ front.length) (separated : IsSeparated other) :
    readNumber (front ++ other) = readNumber (front ++ rest) := by
  rw [length_readNumber] at within
  have same := Numeral.read_settles nonempty (Nat.le_of_add_right_le within) separated
  have sameGlued := (takeWhile_settles isWordChar_of_separator).drop front rest within separated
  rw [readNumber, readNumber, same]
  simp only [sameGlued]

/-- A symbol is read in the same way in front of a separated text. -/
theorem readSymbol_congr (within : symbolRun (others ++ rest) ≤ others.length)
    (separated : IsSeparated other) :
    symbolRun (others ++ other) = symbolRun (others ++ rest) ∧
      (others ++ other).take (symbolRun (others ++ rest)) =
        (others ++ rest).take (symbolRun (others ++ rest)) := by
  refine ⟨symbolRun_settles others rest within separated, ?_⟩
  rw [List.take_append_of_le_length within, List.take_append_of_le_length within]

/-- A sign before a digit is not a lexeme of its own. -/
theorem one_lt_read_length {d : Char} (sign : c = '+' ∨ c = '-') (digit : d.isDigit = true)
    (rest : List Char) : 1 < (read c (d :: rest)).length := by
  have nonempty : (Numeral.read (d :: rest)).text ≠ [] := Numeral.read_text_ne_nil (.inl digit)
  have positive := List.length_pos_iff.mpr nonempty
  simp only [read, List.head?_cons, Lead.of_sign sign digit, length_readNumber,
    Numeral.read_sign_digit sign digit, List.length_cons]
  omega

/-- The lead of some characters is the same in front of a separated text, if the lexeme
ends before it. -/
theorem lead_congr (within : (read c (others ++ rest)).length ≤ others.length + 1)
    (separated : IsSeparated other) :
    Lead.of c (others ++ other).head? = Lead.of c (others ++ rest).head? := by
  cases others with
  | cons d others => rfl
  | nil =>
      refine Lead.of_congr fun sign => ?_
      have otherIsNone : other.head?.any Char.isDigit = false := by
        cases other with
        | nil => rfl
        | cons d other => exact isDigit_of_separator d (separated d rfl)
      have restIsNone : rest.head?.any Char.isDigit = false := by
        cases rest with
        | nil => rfl
        | cons d rest =>
            by_contra isDigit
            have longer := one_lt_read_length sign (Bool.not_eq_false _ ▸ isDigit) rest
            exact absurd within (Nat.not_le.mpr longer)
      rw [List.nil_append, List.nil_append, otherIsNone, restIsNone]

/-- A lexeme that is not malformed and ends within some characters is read in the same way in
front of a separated text, unless it goes on there. -/
theorem read_congr (sound : (read c (others ++ rest)).kind ≠ .fail)
    (within : (read c (others ++ rest)).length ≤ others.length + 1)
    (separated : IsSeparated other)
    (stops : (read c (others ++ rest)).length = others.length + 1 →
      StartsOutside (read c (others ++ rest)).kind.joins other rest) :
    read c (others ++ other) = read c (others ++ rest) := by
  have sameLead := lead_congr within separated
  cases lead : Lead.of c (others ++ rest).head? with
  | blank =>
      simp only [read, lead, sameLead] at within stops ⊢
      have sameBlanks : (others ++ other).takeWhile isBlank = (others ++ rest).takeWhile isBlank :=
        takeWhile_append_congr (Nat.le_of_succ_le_succ within) fun isEnd =>
          stops (congrArg Nat.succ isEnd)
      exact congrArg (fun blanks => plain (.trivia .whitespace) (blanks.length + 1)) sameBlanks
  | lineBreak =>
      simp only [read, lead, sameLead, plain, ← List.cons_append] at within stops ⊢
      rw [lineBreakLength_congr (List.cons_ne_nil c others) within stops]
  | backslash =>
      simp only [read, lead, sameLead] at sound within stops ⊢
      exact readContinuation_congr sound within stops
  | single kind => simp only [read, lead, sameLead]
  | hash =>
      simp only [read, lead, sameLead] at within stops ⊢
      exact readComment_congr within stops
  | quote =>
      simp only [read, lead, sameLead] at sound within ⊢
      exact readString_congr (isDecided_of_sound sound) within other
  | number =>
      simp only [read, lead, sameLead, ← List.cons_append] at within ⊢
      exact readNumber_congr (List.cons_ne_nil c others) within separated
  | letter =>
      simp only [read, lead, sameLead, texted] at within ⊢
      obtain ⟨sameRun, sameText⟩ := readSymbol_congr (Nat.le_of_succ_le_succ within) separated
      rw [sameRun, sameText]
  | operator =>
      simp only [read, lead, sameLead, texted, List.length_cons] at within ⊢
      rw [takeWhile_settles isOperatorChar_of_separator others rest
        (Nat.le_of_succ_le_succ within) separated]
  | stranger =>
      simp only [read, lead] at sound
      exact absurd rfl sound

end Lexeme

/-- Characters in front of a text are read as some lexemes, one behind the other. -/
inductive Spelled : List Char → List Lexeme → List Char → Prop where
  | nil (rest : List Char) : Spelled [] [] rest
  | cons {c : Char} {others behind rest : List Char} {lexeme : Lexeme} {lexemes : List Lexeme}
      (isRead : Lexeme.read c (others ++ (behind ++ rest)) = lexeme)
      (length : lexeme.length = others.length + 1) (later : Spelled behind lexemes rest) :
      Spelled (c :: others ++ behind) (lexeme :: lexemes) rest

/-- The words of some lexemes without those that the grammar never sees. -/
def keptWords : List Lexeme → List Word
  | [] => []
  | lexeme :: lexemes =>
      if lexeme.kind ∈ ignoredKinds then keptWords lexemes else lexeme.word :: keptWords lexemes

/-- What the grammar never sees has no word. -/
theorem keptWords_of_ignored {lexeme : Lexeme} (ignored : lexeme.kind ∈ ignoredKinds) :
    keptWords [lexeme] = [] :=
  if_pos ignored

/-- What the grammar sees is a single word. -/
theorem keptWords_of_kept {lexeme : Lexeme} (kept : lexeme.kind ∉ ignoredKinds) :
    keptWords [lexeme] = [lexeme.word] :=
  if_neg kept

namespace Spelled

variable {front rest other : List Char} {lexemes first second : List Lexeme}

/-- Lexemes in front of a text add their words. -/
theorem words_append (spelled : Spelled front lexemes rest) :
    words (front ++ rest) = keptWords lexemes ++ words rest := by
  induction spelled with
  | nil => rfl
  | @cons c others behind rest lexeme lexemes isRead length later inductionHypothesis =>
      have behindFirst : (c :: (others ++ (behind ++ rest))).drop lexeme.length =
          behind ++ rest := by
        rw [length, ← List.cons_append]
        exact List.drop_left
      rw [List.append_assoc, List.cons_append, keptWords]
      subst isRead
      split
      · rename_i ignored
        rw [words_of_ignored ignored, behindFirst, inductionHypothesis]
      · rename_i kept
        rw [words_of_kept kept, behindFirst, inductionHypothesis, List.cons_append]

/-- Behind no lexemes there are no characters. -/
theorem eq_nil (spelled : Spelled front [] rest) : front = [] := by
  cases spelled
  rfl

/-- Some characters that are not malformed are spelled in the same way in front of a separated
text, unless the last lexeme goes on there. -/
theorem congr (spelled : Spelled front lexemes rest) (separated : IsSeparated other)
    (sound : ∀ lexeme ∈ lexemes, lexeme.kind ≠ .fail)
    (stops : ∀ last ∈ lexemes.getLast?, StartsOutside last.kind.joins other rest) :
    Spelled front lexemes other := by
  induction spelled with
  | nil => exact .nil other
  | @cons c others behind rest lexeme lexemes isRead length later inductionHypothesis =>
      refine .cons ?_ length (inductionHypothesis
        (fun lexeme member => sound lexeme (List.mem_cons_of_mem _ member))
        fun last isLast => stops last ?_)
      · rw [← List.append_assoc] at isRead ⊢
        rw [← isRead] at sound stops length ⊢
        refine Lexeme.read_congr (sound _ List.mem_cons_self) ?_ separated fun isEnd => stops _ ?_
        · rw [length, List.length_append]
          omega
        · -- nothing is left for further lexemes
          have none : behind = [] := by
            rw [length, List.length_append] at isEnd
            exact List.length_eq_zero_iff.mp (by omega)
          subst none
          cases later
          rfl
      · rw [List.getLast?_cons]
        exact congrArg some (by rw [isLast]; rfl)

/-- Lexemes may be split everywhere, and so are their characters. -/
theorem exists_split (spelled : Spelled front (first ++ second) rest) :
    ∃ left right, front = left ++ right ∧ Spelled left first (right ++ rest) ∧
      Spelled right second rest := by
  induction first generalizing front with
  | nil => exact ⟨[], front, rfl, .nil _, spelled⟩
  | cons lexeme first inductionHypothesis =>
      cases spelled with
      | cons isRead length later =>
          obtain ⟨left, right, rfl, before, behind⟩ := inductionHypothesis later
          refine ⟨_ ++ left, right, (List.append_assoc ..).symm, .cons ?_ length before, behind⟩
          rwa [List.append_assoc] at isRead

/-- The characters of a single lexeme. -/
theorem exists_read {lexeme : Lexeme} (spelled : Spelled front [lexeme] rest) :
    ∃ c others, front = c :: others ∧ Lexeme.read c (others ++ rest) = lexeme ∧
      lexeme.length = others.length + 1 := by
  cases spelled with
  | cons isRead length later =>
      obtain rfl := later.eq_nil
      exact ⟨_, _, List.append_nil _, isRead, length⟩

/-- A lexeme in front of some others is spelled together with them. -/
theorem exists_cons {c : Char} {behind : List Char} (spelled : Spelled front lexemes rest)
    (isBehind : (c :: behind).drop (Lexeme.read c behind).length = front ++ rest) :
    ∃ longer, c :: behind = longer ++ rest ∧
      longer.length = (Lexeme.read c behind).length + front.length ∧
      Spelled longer (Lexeme.read c behind :: lexemes) rest := by
  obtain ⟨width, isLength⟩ : ∃ width, (Lexeme.read c behind).length = width + 1 :=
    Nat.exists_eq_add_one_of_ne_zero (Lexeme.read_length_pos c behind).ne'
  have taken : (behind.take width).length = width := by
    have within := Lexeme.read_length_le c behind
    exact List.length_take_of_le (by omega)
  have split : behind = behind.take width ++ (front ++ rest) := by
    rw [← isBehind, isLength, List.drop_succ_cons, List.take_append_drop]
  refine ⟨c :: behind.take width ++ front, ?_, ?_, .cons ?_ (by rw [isLength, taken]) spelled⟩
  · rw [List.append_assoc, List.cons_append, ← split]
  · rw [List.length_append, List.length_cons, taken, isLength]
  · rw [← split]

/-- Lexemes in front of one that starts with a separator are spelled in the same way whatever
stands behind it. -/
theorem congr_behind {left right : List Char} {last : Lexeme}
    (before : Spelled left lexemes (right ++ rest)) (behind : Spelled right [last] rest)
    (isSeparator : last.kind.isSeparator = true) (sound : ∀ lexeme ∈ lexemes, lexeme.kind ≠ .fail)
    (other : List Char) : Spelled left lexemes (right ++ other) := by
  obtain ⟨c, others, rfl, rfl, -⟩ := behind.exists_read
  refine before.congr ?_ sound fun _ _ d isHead => .inr isHead
  rintro _ ⟨rfl⟩
  exact Kind.mem_separatorChars isSeparator (Lexeme.startsWith_read c _)

end Spelled

section

variable {lexemes : List Lexeme} {tokens : List Token}

/-- Every lexeme is one of the tokens of the same words. -/
theorem exists_token_of_mem (same : lexemes.map Lexeme.word = tokens.map Token.word)
    {lexeme : Lexeme} (member : lexeme ∈ lexemes) : ∃ token ∈ tokens, token.kind = lexeme.kind := by
  have isWord : lexeme.word ∈ tokens.map Token.word := by
    rw [← same]
    exact List.mem_map_of_mem member
  obtain ⟨token, member, sameWord⟩ := List.mem_map.mp isWord
  exact ⟨token, member, congrArg Word.kind sameWord⟩

/-- The last lexeme is the last one of the tokens of the same words. -/
theorem exists_token_of_getLast? (same : lexemes.map Lexeme.word = tokens.map Token.word)
    {last : Lexeme} (isLast : last ∈ lexemes.getLast?) :
    ∃ token ∈ tokens.getLast?, token.kind = last.kind := by
  have isWord : last.word ∈ (tokens.map Token.word).getLast? := by
    rw [← same, List.getLast?_map]
    exact Option.mem_map_of_mem _ isLast
  rw [List.getLast?_map] at isWord
  obtain ⟨token, isLast, sameWord⟩ := Option.map_eq_some_iff.mp isWord
  exact ⟨token, isLast, congrArg Word.kind sameWord⟩

end

/-- Nothing stands behind the end of a text only. -/
theorem eq_length_of_drop_eq_nil {text : List Char} {offset : Nat} (inside : offset ≤ text.length)
    (behind : text.drop offset = []) : offset = text.length :=
  Nat.le_antisymm inside (List.drop_eq_nil_iff.mp behind)

namespace Cursor

/-- Tokens in front of others are spelled by the characters between the places of the two. -/
theorem exists_spelled {text : List Char} {offset : Nat} {before after : List Token}
    (inside : offset ≤ text.length)
    (split : (ofOffset text offset).tokens = before ++ after) (more : after ≠ []) :
    ∃ stop front lexemes, text.drop offset = front ++ text.drop stop ∧
      stop = offset + front.length ∧ Spelled front lexemes (text.drop stop) ∧
      lexemes.map Lexeme.word = before.map Token.word ∧
      (ofOffset text stop).tokens = after ∧
      ∀ last ∈ before.getLast?, last.span.stop = stop := by
  induction before generalizing offset with
  | nil => exact ⟨offset, [], [], rfl, rfl, .nil _, rfl, split, by simp⟩
  | cons token before inductionHypothesis =>
      cases behind : text.drop offset with
      | nil =>
          obtain rfl := eq_length_of_drop_eq_nil inside behind
          rw [tokens_end, List.cons_append] at split
          have none := (List.append_eq_nil_iff.mp (List.cons.inj split).2.symm).2
          exact absurd none more
      | cons c rest =>
          have within := Lexeme.read_length_le c rest
          have length := length_of_drop_eq_cons behind
          rw [tokens_ofOffset behind, List.cons_append, List.cons.injEq] at split
          obtain ⟨rfl, others⟩ := split
          obtain ⟨stop, front, lexemes, isFront, isStop, spelled, sameWords, isAfter, isLast⟩ :=
            inductionHypothesis (by omega) others
          obtain ⟨longer, isLonger, length, together⟩ : ∃ longer, c :: rest = longer ++ _ ∧
              longer.length = (Lexeme.read c rest).length + front.length ∧
              Spelled longer (Lexeme.read c rest :: lexemes) _ :=
            spelled.exists_cons (by rw [← isFront, ← List.drop_drop, behind])
          refine ⟨stop, longer, _, isLonger, by omega, together, ?_, isAfter, ?_⟩
          · rw [List.map_cons, List.map_cons, sameWords]
            rfl
          · cases before with
            | cons other before => rwa [List.getLast?_cons_cons]
            | nil =>
                obtain rfl := List.map_eq_nil_iff.mp sameWords
                obtain rfl := spelled.eq_nil
                rintro _ ⟨rfl⟩
                exact isStop.symm

/-- The start of a text is its first offset. -/
theorem ofString_eq (source : String) : ofString source = ofOffset source.toList 0 :=
  rfl

/-- There is a first token, be it the end of input. -/
theorem tokens_ne_nil (cursor : Cursor) : cursor.tokens ≠ [] := by
  obtain ⟨⟨token, after⟩, step⟩ : ∃ step, cursor.next = step := ⟨_, rfl⟩
  rw [tokens_of_next step]
  split <;> exact List.cons_ne_nil _ _

/-- The last token of a text is the end of input. -/
theorem eq_end_of_tokens {text : List Char} {offset : Nat} {token : Token}
    (inside : offset ≤ text.length) (single : (ofOffset text offset).tokens = [token]) :
    offset = text.length ∧ token = endToken text := by
  cases behind : text.drop offset with
  | nil =>
      obtain rfl := eq_length_of_drop_eq_nil inside behind
      rw [tokens_end] at single
      exact ⟨rfl, (List.cons.inj single).1.symm⟩
  | cons c rest =>
      rw [tokens_ofOffset behind] at single
      exact absurd (List.cons.inj single).2 (tokens_ne_nil _)

/-- The first tokens of a text are spelled by the characters up to a seam. -/
theorem exists_spelled_take {text : List Char} {before after : List Token}
    (split : (ofOffset text 0).tokens = before ++ after) (more : after ≠ []) :
    ∃ stop lexemes, stop ≤ text.length ∧ Spelled (text.take stop) lexemes (text.drop stop) ∧
      lexemes.map Lexeme.word = before.map Token.word ∧
      (ofOffset text stop).tokens = after ∧
      ∀ last ∈ before.getLast?, last.span.stop = stop := by
  obtain ⟨stop, front, lexemes, isFront, isStop, spelled, sameWords, isAfter, isLast⟩ :=
    exists_spelled (Nat.zero_le _) split more
  rw [List.drop_zero] at isFront
  rw [Nat.zero_add] at isStop
  refine ⟨stop, lexemes, ?_, ?_, sameWords, isAfter, isLast⟩
  · rw [isStop, isFront, List.length_append]
    omega
  · rwa [show text.take stop = front by rw [isStop, isFront, List.take_left]]

/-- All tokens of a text but the end of input are spelled by the text. -/
theorem exists_spelled_all (text : List Char) :
    ∃ lexemes, Spelled text lexemes [] ∧
      lexemes.map Lexeme.word = (ofOffset text 0).tokens.dropLast.map Token.word := by
  have nonempty := tokens_ne_nil (ofOffset text 0)
  obtain ⟨stop, lexemes, inside, spelled, sameWords, isAfter, -⟩ :=
    exists_spelled_take (List.dropLast_append_getLast nonempty).symm (List.cons_ne_nil _ _)
  obtain ⟨rfl, -⟩ := eq_end_of_tokens inside isAfter
  rw [List.take_length, List.drop_length] at spelled
  exact ⟨lexemes, spelled, sameWords⟩

/-- The characters in front of a boundary between tokens are spelled by the tokens that end
there at the latest. -/
theorem exists_spelled_boundary {text : List Char} {boundary : Nat}
    (isBoundary : boundary = 0 ∨ ∃ token ∈ (ofOffset text 0).tokens, token.span.stop = boundary) :
    ∃ lexemes before, Spelled (text.take boundary) lexemes (text.drop boundary) ∧
      lexemes.map Lexeme.word = before.map Token.word ∧ before <+: (ofOffset text 0).tokens ∧
      ∀ last ∈ before.getLast?, last.span.stop = boundary := by
  rcases isBoundary with rfl | ⟨token, member, rfl⟩
  · exact ⟨[], [], .nil _, rfl, List.nil_prefix, by simp⟩
  obtain ⟨before, after, split⟩ := List.append_of_mem member
  cases after with
  | nil =>
      -- the end of input adds no characters to those of the tokens before it
      obtain ⟨stop, lexemes, inside, spelled, sameWords, isAfter, isLast⟩ :=
        exists_spelled_take split (List.cons_ne_nil _ _)
      obtain ⟨rfl, rfl⟩ := eq_end_of_tokens inside isAfter
      exact ⟨lexemes, before, spelled, sameWords, ⟨_, split.symm⟩, isLast⟩
  | cons other after =>
      rw [← List.singleton_append, ← List.append_assoc] at split
      obtain ⟨stop, lexemes, inside, spelled, sameWords, isAfter, isLast⟩ :=
        exists_spelled_take split (List.cons_ne_nil _ _)
      obtain rfl := isLast token (by simp)
      exact ⟨lexemes, before ++ [token], spelled, sameWords, ⟨_, split.symm⟩, isLast⟩

end Cursor

end BlockData
