import BlockData.Character.Numeric
import BlockData.Token

/-!
# Leading characters

The first character of a text decides what is read from it; only a sign needs a
look at the second, which makes it part of a number if it is a digit. `Lead.of`
takes that decision, so a reading is a function by cases on `Lead`.
-/

namespace BlockData

/-- The characters of operators. -/
def isOperatorChar (c : Char) : Bool :=
  "+-*/%=<>!&|^~@$?".toList.contains c

/-- The characters of words: letters of every script, numeric characters and the
underscore. -/
def isWordChar (c : Char) : Bool :=
  Character.isAlphanumeric c || c == '_'

/-- The kind of a token that is a single character. -/
def singleKind? (c : Char) : Option Kind :=
  match c with
  | ';' => some (.terminator .semicolon)
  | ':' => some (.value .colon)
  | ',' => some (.value .comma)
  | '.' => some (.value .period)
  | _ =>
      ((Delimiter.ofOpenChar? c).map Kind.opening).or ((Delimiter.ofCloseChar? c).map Kind.closing)

/-- What a text starts with. -/
inductive Lead where
  | blank
  | lineBreak
  | backslash
  | single (kind : Kind)
  | hash
  | quote
  | number
  | letter
  | operator
  | stranger
deriving DecidableEq, Repr

/-- What a text starts with, by its first character and the one behind it. -/
def Lead.of (c : Char) (next : Option Char) : Lead :=
  if c = ' ' ∨ c = '\t' then .blank
  else if c = '\n' ∨ c = '\r' then .lineBreak
  else if c = '\\' then .backslash
  else match singleKind? c with
    | some kind => .single kind
    | none =>
        if c = '#' then .hash
        else if c = '"' ∨ c = '\'' then .quote
        else if c.isDigit ∨ ((c = '+' ∨ c = '-') ∧ next.any Char.isDigit) then .number
        else if Character.isAlphabetic c ∨ c = '_' then .letter
        else if isOperatorChar c then .operator
        else .stranger

end BlockData
