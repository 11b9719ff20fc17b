import BlockData.Character.WhiteSpace
import BlockData.Lexeme.Lead
import BlockData.Lexeme.Numeral
import BlockData.Lexeme.Quoted

/-!
# Lexemes

`Lexeme.read` says what the next characters of a text are: a kind, a value and a
number of characters. It looks at the text alone and not at its position, so the
same characters are read in the same way wherever they stand. Malformed input is
a lexeme too, of the kind `fail`; `read_length_pos` and `read_length_le` give
every lexeme at least one character and no more than there are.
-/

namespace BlockData

/-- What some characters of a text are. -/
structure Lexeme where
  kind : Kind
  value : Option Value
  /-- How many characters belong to the lexeme. -/
  length : Nat
  /-- How many of them stand before the place where the lexeme is reported. -/
  reportedAt : Nat
deriving DecidableEq

/-- How many characters the line break at the head of a text has, zero if there
is none. A carriage return and a line feed are one break. -/
def lineBreakLength : List Char → Nat
  | '\n' :: _ => 1
  | '\r' :: '\n' :: _ => 2
  | '\r' :: _ => 1
  | _ => 0

/-- Whether a character ends the line of a comment. -/
def isLineEnd (c : Char) : Bool :=
  c == '\n' || c == '\r'

/-- How many characters at the head of a text continue a symbol. A hyphen does
so only before a letter or a numeric character. -/
def symbolRun : List Char → Nat
  | [] => 0
  | c :: rest =>
      if isWordChar c ∨ c = '?' ∨ c = '!' ∨ (c = '-' ∧ rest.head?.any Character.isAlphanumeric)
      then symbolRun rest + 1
      else 0

namespace Lexeme

/-- The lexeme of malformed input. -/
def malformed (flaw : Flaw) (length reportedAt : Nat) : Lexeme :=
  ⟨.fail, some (.text flaw.message), length, reportedAt⟩

/-- The lexeme of a kind without a value. -/
def plain (kind : Kind) (length : Nat) : Lexeme :=
  ⟨kind, none, length, 0⟩

/-- The lexeme of a kind whose value is a text. -/
def texted (kind : Kind) (content : List Char) (length : Nat) : Lexeme :=
  ⟨kind, some (.text (String.ofList content)), length, 0⟩

/-- A backslash joins its line with the next one. -/
def readContinuation (rest : List Char) : Lexeme :=
  match lineBreakLength rest with
  | 0 => malformed .strayBackslash 1 0
  | width + 1 => plain (.trivia .escapedNewline) (width + 2)

/-- A comment ends before the end of its line. -/
def readComment (rest : List Char) : Lexeme :=
  let content := rest.takeWhile fun c => !isLineEnd c
  texted .comment (Character.trim content) (content.length + 1)

/-- A string ends at its closing quote. A wrong escape is reported at its
backslash. -/
def readString (quote : Char) (rest : List Char) : Lexeme :=
  match readQuoted quote rest with
  | .closed content length => texted (.value .string) content (length + 1)
  | .unterminated => malformed .unterminatedString (rest.length + 1) 0
  | .unterminatedEscape place => malformed .unterminatedEscape (place + 2) (place + 1)
  | .unknownEscape place c => malformed (.unknownEscape c) (place + 3) (place + 1)

/-- A number must not run into a word. -/
def readNumber (text : List Char) : Lexeme :=
  let numeral := Numeral.read text
  let glued := (text.drop numeral.text.length).takeWhile isWordChar
  if glued ≠ [] then
    malformed (.invalidNumber (numeral.text ++ glued)) (numeral.text ++ glued).length 0
  else match numeral.value with
    | .ok value =>
        ⟨.value (if numeral.isFloat then .float else .integer), some value, numeral.text.length, 0⟩
    | .error flaw => malformed flaw numeral.text.length 0

/-- The lexeme at the head of the text of `c` and `rest`. -/
def read (c : Char) (rest : List Char) : Lexeme :=
  match Lead.of c rest.head? with
  | .blank =>
      plain (.trivia .whitespace) ((rest.takeWhile fun c => c == ' ' || c == '\t').length + 1)
  | .lineBreak => plain (.terminator .newline) (lineBreakLength (c :: rest))
  | .backslash => readContinuation rest
  | .single kind => plain kind 1
  | .hash => readComment rest
  | .quote => readString c rest
  | .number => readNumber (c :: rest)
  | .letter => texted (.value .symbol) (c :: rest.take (symbolRun rest)) (symbolRun rest + 1)
  | .operator =>
      let run := c :: rest.takeWhile isOperatorChar
      texted (.value .operator) run run.length
  | .stranger => malformed (.unexpectedCharacter c) 1 0

end Lexeme

end BlockData
