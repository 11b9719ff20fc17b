import BlockData.Proofs.Lexing.Leaves
import BlockData.Proofs.Lexing.Settled
import BlockData.Proofs.Lexing.Stream

/-!
# Strings

A string is written with items: characters that stand for themselves, and escapes, which are
a backslash and one of seven characters. Reading behind an opening quote takes items for as
long as there are some (`readQuoted_items`). What then stands there decides how the string
ends: at its closing quote, at an escape that is none, or at the end of the text, perhaps
behind a backslash (`ReadsQuoted`). Every text behind a quote is read in one of these ways,
and one call of `next` gives the token that belongs to it (`Cursor.next_string`).
-/

namespace BlockData

/-- The characters that are escaped behind a backslash, and what they stand for there. -/
def escapes : List (Char × Char) :=
  [('n', '\n'), ('t', '\t'), ('r', '\r'), ('0', '\x00'), ('\\', '\\'), ('"', '"'), ('\'', '\'')]

/-- A character stands for another one behind a backslash as the escapes say. -/
theorem unescape?_eq_some_iff {c meant : Char} :
    unescape? c = some meant ↔ (c, meant) ∈ escapes := by
  constructor
  · intro isEscape
    unfold unescape? at isEscape
    split at isEscape <;> cases isEscape <;> decide
  · intro isEscape
    simp only [escapes, List.mem_cons, List.not_mem_nil, or_false, Prod.mk.injEq] at isEscape
    rcases isEscape with ⟨rfl, rfl⟩ | ⟨rfl, rfl⟩ | ⟨rfl, rfl⟩ | ⟨rfl, rfl⟩ | ⟨rfl, rfl⟩ |
      ⟨rfl, rfl⟩ | ⟨rfl, rfl⟩ <;> rfl

/-- A character that no escape has behind its backslash stands for nothing there. -/
theorem unescape?_eq_none_iff {c : Char} : unescape? c = none ↔ c ∉ escapes.map Prod.fst := by
  rw [Option.eq_none_iff_forall_ne_some]
  simp only [ne_eq, unescape?_eq_some_iff, List.mem_map, Prod.exists, exists_and_right,
    exists_eq_right, not_exists]

/-- What strings are written with. -/
inductive StringItem where
  /-- A character that stands for itself. -/
  | raw (c : Char)
  /-- A backslash and a character that stands for another one behind it. -/
  | escaped (c meant : Char)

namespace StringItem

/-- The characters of an item. -/
def text : StringItem → List Char
  | raw c => [c]
  | escaped c _ => ['\\', c]

/-- The character that an item stands for. -/
def meaning : StringItem → Char
  | raw c => c
  | escaped _ meant => meant

/-- An item may stand between two quotes: it is an escape, or any character but the quote and
the backslash. -/
def IsIn (quote : Char) : StringItem → Prop
  | raw c => c ≠ quote ∧ c ≠ '\\'
  | escaped c meant => (c, meant) ∈ escapes

/-- The characters of some items. -/
def spelling (items : List StringItem) : List Char :=
  items.flatMap text

/-- The text that some items stand for. -/
def content (items : List StringItem) : String :=
  String.ofList (items.map meaning)

@[simp] theorem spelling_nil : spelling [] = [] := rfl

@[simp] theorem spelling_cons (item : StringItem) (items : List StringItem) :
    spelling (item :: items) = item.text ++ spelling items := rfl

end StringItem

/-- Some characters behind an opening quote are read as a token: items are taken from left to
right, and what stands behind them ends the reading. The token has a kind and a text as its
value. It takes the characters `taken` behind the quote and is reported `place` characters
behind the place of the quote. -/
inductive ReadsQuoted (quote : Char) :
    (characters : List Char) → (kind : Kind) → (value : String) → (taken : List Char) →
      (place : Nat) → Prop
  /-- The closing quote ends a string. -/
  | closed {items : List StringItem} (inside : ∀ item ∈ items, item.IsIn quote)
      (rest : List Char) :
      ReadsQuoted quote (StringItem.spelling items ++ quote :: rest) (.value .string)
        (StringItem.content items) (StringItem.spelling items ++ [quote]) 0
  /-- A backslash stands before a character that is not escaped so. -/
  | unknownEscape {items : List StringItem} (inside : ∀ item ∈ items, item.IsIn quote)
      {c : Char} (unknown : c ∉ escapes.map Prod.fst) (rest : List Char) :
      ReadsQuoted quote (StringItem.spelling items ++ '\\' :: c :: rest) .fail
        s!"Unknown escape sequence: '\\{c}'" (StringItem.spelling items ++ ['\\', c])
        ((StringItem.spelling items).length + 1)
  /-- The text ends behind a backslash. -/
  | unterminatedEscape {items : List StringItem} (inside : ∀ item ∈ items, item.IsIn quote) :
      ReadsQuoted quote (StringItem.spelling items ++ ['\\']) .fail
        "Unterminated escape sequence" (StringItem.spelling items ++ ['\\'])
        ((StringItem.spelling items).length + 1)
  /-- The text ends. -/
  | unterminated {items : List StringItem} (inside : ∀ item ∈ items, item.IsIn quote) :
      ReadsQuoted quote (StringItem.spelling items) .fail "Unterminated string"
        (StringItem.spelling items) 0

/-- The reading that starts some items earlier. -/
def QuotedReading.behind (items : List StringItem) : QuotedReading → QuotedReading
  | .closed content length =>
      .closed (items.map StringItem.meaning ++ content)
        (length + (StringItem.spelling items).length)
  | .unterminated => .unterminated
  | .unterminatedEscape place => .unterminatedEscape (place + (StringItem.spelling items).length)
  | .unknownEscape place c => .unknownEscape (place + (StringItem.spelling items).length) c

/-- Nothing more is read behind no items. -/
theorem QuotedReading.behind_nil (reading : QuotedReading) : reading.behind [] = reading := by
  cases reading <;> rfl

/-- One more item is one more character that is meant. -/
theorem QuotedReading.behind_cons (item : StringItem) (items : List StringItem)
    (reading : QuotedReading) :
    reading.behind (item :: items) =
      (reading.behind items).after item.text.length item.meaning := by
  cases reading <;>
    simp only [behind, after, List.map_cons, List.cons_append, StringItem.spelling_cons,
      List.length_append, Nat.add_comm item.text.length, Nat.add_assoc]

/-- An item is read as the character that it stands for. -/
theorem readQuoted_item {quote : Char} {item : StringItem} (inside : item.IsIn quote)
    (rest : List Char) :
    readQuoted quote (item.text ++ rest) =
      (readQuoted quote rest).after item.text.length item.meaning := by
  cases item with
  | raw c =>
      obtain ⟨noQuote, noBackslash⟩ := inside
      exact (readQuoted_cons_of_ne noBackslash rest).trans (if_neg noQuote)
  | escaped c meant =>
      have isEscape : unescape? c = some meant := unescape?_eq_some_iff.mpr inside
      simp only [StringItem.text, StringItem.meaning, List.cons_append, List.nil_append, readQuoted,
        isEscape, List.length_cons, List.length_nil]

/-- Items are read from left to right up to what stands behind them. -/
theorem readQuoted_items {quote : Char} {items : List StringItem}
    (inside : ∀ item ∈ items, item.IsIn quote) (rest : List Char) :
    readQuoted quote (StringItem.spelling items ++ rest) =
      (readQuoted quote rest).behind items := by
  induction items with
  | nil => exact (QuotedReading.behind_nil _).symm
  | cons item items inductionHypothesis =>
      obtain ⟨first, others⟩ := List.forall_mem_cons.mp inside
      rw [StringItem.spelling_cons, List.append_assoc, readQuoted_item first,
        inductionHypothesis others, QuotedReading.behind_cons]

/-- Every text is items, as many as there are, and a rest that starts with none. -/
theorem exists_items (quote : Char) (characters : List Char) :
    ∃ items rest, (∀ item ∈ items, item.IsIn quote) ∧
      characters = StringItem.spelling items ++ rest ∧
      (rest = [] ∨ rest = ['\\'] ∨
        (∃ c behind, c ∉ escapes.map Prod.fst ∧ rest = '\\' :: c :: behind) ∨
        ∃ behind, rest = quote :: behind) := by
  have noItems : ∀ item ∈ ([] : List StringItem), item.IsIn quote := nofun
  fun_induction readQuoted quote characters with
  | case1 => exact ⟨[], _, noItems, rfl, .inl rfl⟩
  | case2 => exact ⟨[], _, noItems, rfl, .inr (.inl rfl)⟩
  | case3 c rest meant isEscape inductionHypothesis =>
      obtain ⟨items, others, inside, rfl, ends⟩ := inductionHypothesis
      have first : (StringItem.escaped c meant).IsIn quote := unescape?_eq_some_iff.mp isEscape
      exact ⟨_, _, List.forall_mem_cons.mpr ⟨first, inside⟩, rfl, ends⟩
  | case4 c rest unknown =>
      have noEscape := unescape?_eq_none_iff.mp unknown
      exact ⟨[], _, noItems, rfl, .inr (.inr (.inl ⟨c, rest, noEscape, rfl⟩))⟩
  | case5 rest => exact ⟨[], _, noItems, rfl, .inr (.inr (.inr ⟨rest, rfl⟩))⟩
  | case6 c rest noEnd noEscape noQuote inductionHypothesis =>
      obtain ⟨items, others, inside, rfl, ends⟩ := inductionHypothesis
      have first : (StringItem.raw c).IsIn quote := ⟨noQuote, ne_backslash_of_reads noEnd noEscape⟩
      exact ⟨_, _, List.forall_mem_cons.mpr ⟨first, inside⟩, rfl, ends⟩

/-- Every text behind a quote is read in one of the ways. -/
theorem exists_readsQuoted (quote : Char) (characters : List Char) :
    ∃ kind value taken place, ReadsQuoted quote characters kind value taken place := by
  obtain ⟨items, rest, inside, rfl, ends⟩ := exists_items quote characters
  rcases ends with rfl | rfl | ⟨c, behind, unknown, rfl⟩ | ⟨behind, rfl⟩
  · rw [List.append_nil]
    exact ⟨_, _, _, _, .unterminated inside⟩
  · exact ⟨_, _, _, _, .unterminatedEscape inside⟩
  · exact ⟨_, _, _, _, .unknownEscape inside unknown behind⟩
  · exact ⟨_, _, _, _, .closed inside behind⟩

namespace ReadsQuoted

variable {quote : Char} {characters taken : List Char} {kind : Kind} {value : String}
  {place : Nat}

/-- What is taken stands in front. -/
theorem inFront (reads : ReadsQuoted quote characters kind value taken place) :
    taken <+: characters := by
  cases reads with
  | closed inside rest => exact ⟨rest, by simp⟩
  | unknownEscape inside unknown rest => exact ⟨rest, by simp⟩
  | unterminatedEscape inside => exact List.prefix_refl _
  | unterminated inside => exact List.prefix_refl _

/-- What is read behind a quote is the lexeme of its reading, from the quote on. -/
theorem readString_eq (noBackslash : quote ≠ '\\')
    (reads : ReadsQuoted quote characters kind value taken place) :
    Lexeme.readString quote characters =
      ⟨kind, some (.text value), (quote :: taken).length, place⟩ := by
  cases reads with
  | closed inside rest =>
      have closing : readQuoted quote (quote :: rest) = .closed [] 1 :=
        (readQuoted_cons_of_ne noBackslash rest).trans (if_pos rfl)
      rw [Lexeme.readString, readQuoted_items inside, closing]
      simp [QuotedReading.behind, Lexeme.texted, StringItem.content, Nat.add_comm]
  | @unknownEscape items inside c unknown rest =>
      have reading : readQuoted quote ('\\' :: c :: rest) = .unknownEscape 0 c := by
        rw [readQuoted, unescape?_eq_none_iff.mpr unknown]
      rw [Lexeme.readString, readQuoted_items inside, reading]
      simp only [QuotedReading.behind, Lexeme.malformed, Nat.zero_add, List.length_cons,
        List.length_append, List.length_nil]
      rfl
  | unterminatedEscape inside =>
      have reading : readQuoted quote ['\\'] = .unterminatedEscape 0 := by rw [readQuoted]
      rw [Lexeme.readString, readQuoted_items inside, reading]
      simp only [QuotedReading.behind, Lexeme.malformed, Nat.zero_add, List.length_cons,
        List.length_append, List.length_nil]
      rfl
  | unterminated inside =>
      have reading := readQuoted_items inside []
      rw [List.append_nil, readQuoted] at reading
      rw [Lexeme.readString, reading]
      rfl

end ReadsQuoted

/-- The two characters that strings stand between. -/
def quoteChars : List Char :=
  ['"', '\'']

/-- A quote starts a string. -/
theorem Lexeme.read_of_quote {c : Char} (isQuote : c ∈ quoteChars) (rest : List Char) :
    Lexeme.read c rest = Lexeme.readString c rest := by
  have lead : ∀ next, Lead.of c next = .quote := by
    intro next
    rcases List.mem_pair.mp isQuote with rfl | rfl <;> rfl
  rw [Lexeme.read, lead]

/-- A text in quotes, as it is written, is read behind its first quote up to its last one. -/
theorem readString_quote (content rest : List Char) :
    Lexeme.readString '"' (content.flatMap escape ++ '"' :: rest) =
      ⟨.value .string, some (.text (String.ofList content)), (quote content).length, 0⟩ := by
  rw [Lexeme.readString, readQuoted_flatMap_escape]
  simp [Lexeme.texted, quote]

/-- String literals are read exactly. Behind a quote, double or single, every text is read in
one of four ways, and one call of `next` gives the token that each way says: the string that
the items up to the closing quote stand for, or a report of the first escape that is none, of
a text that ends behind a backslash, or of a text that ends. And any text at all that `quote`
writes is read as this text, and none of what stands behind it. -/
theorem Cursor.next_string (text : List Char) (offset : Nat) :
    (∀ quote ∈ quoteChars, ∀ rest, text.drop offset = quote :: rest →
      (∃ kind value taken place, ReadsQuoted quote rest kind value taken place) ∧
      ∀ kind value taken place, ReadsQuoted quote rest kind value taken place →
        ReadsAt text offset kind (.text value) (quote :: taken) place) ∧
    ∀ content rest, text.drop offset = BlockData.quote content ++ rest →
      ReadsAt text offset (.value .string) (.text (String.ofList content))
        (BlockData.quote content) 0 := by
  constructor
  · intro quote isQuote rest behind
    refine ⟨exists_readsQuoted quote rest, fun kind value taken place reads => ?_⟩
    have noBackslash : quote ≠ '\\' := by
      rintro rfl
      simp [quoteChars] at isQuote
    have inFront : quote :: taken <+: quote :: rest :=
      List.cons_prefix_cons.mpr ⟨rfl, reads.inFront⟩
    refine ReadsAt.of_read behind inFront ?_
    rw [Lexeme.read_of_quote isQuote, reads.readString_eq noBackslash]
  · intro content rest behind
    have opened : BlockData.quote content ++ rest =
        '"' :: (content.flatMap escape ++ '"' :: rest) := by
      simp [BlockData.quote]
    refine ReadsAt.of_read (behind.trans opened) ⟨rest, opened⟩ ?_
    rw [Lexeme.read_of_quote List.mem_cons_self, readString_quote]

/-- In `'\q` one call reads all three characters and reports the second one, and in the text
that `quote` writes for a quote and a line break it reads that text back. -/
theorem Cursor.next_string_of_bad_escape_and_quoted :
    ReadsAt "('\\q'".toList 1 .fail (.text "Unknown escape sequence: '\\q'")
      "'\\q".toList 1 ∧
    ReadsAt (quote ['"', '\n'] ++ [';']) 0 (.value .string) (.text "\"\n")
      (quote ['"', '\n']) 0 := by
  constructor
  · refine ((next_string "('\\q'".toList 1).1 '\'' (by decide) "\\q'".toList rfl).2 _ _ _ _ ?_
    have noItems : ∀ item ∈ ([] : List StringItem), item.IsIn '\'' := nofun
    exact .unknownEscape noItems (by decide) ['\'']
  · exact (next_string (quote ['"', '\n'] ++ [';']) 0).2 ['"', '\n'] [';'] rfl

end BlockData
