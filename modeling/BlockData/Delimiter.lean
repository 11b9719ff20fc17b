/-!
# Block delimiters

A block is written in one of three styles of brackets, each with an opening and
a closing character.
-/

namespace BlockData

/-- The brackets that a block is written with. -/
inductive Delimiter where
  | curly
  | paren
  | bracket
deriving DecidableEq, Repr

namespace Delimiter

/-- The three styles in the order of their ranks. -/
def all : List Delimiter :=
  [.curly, .paren, .bracket]

/-- The place of a style in `all`. -/
def rank : Delimiter → Nat
  | .curly => 0
  | .paren => 1
  | .bracket => 2

/-- The name of a style. -/
def name : Delimiter → String
  | .curly => "curly"
  | .paren => "paren"
  | .bracket => "bracket"

/-- The character that opens a block. -/
def openChar : Delimiter → Char
  | .curly => '\x7b'
  | .paren => '('
  | .bracket => '['

/-- The character that closes a block. -/
def closeChar : Delimiter → Char
  | .curly => '\x7d'
  | .paren => ')'
  | .bracket => ']'

/-- The style that a character opens. -/
def ofOpenChar? (c : Char) : Option Delimiter :=
  all.find? fun delimiter => delimiter.openChar == c

/-- The style that a character closes. -/
def ofCloseChar? (c : Char) : Option Delimiter :=
  all.find? fun delimiter => delimiter.closeChar == c

/-- Every style is found by the character that opens it. -/
@[simp] theorem ofOpenChar?_openChar (delimiter : Delimiter) :
    ofOpenChar? delimiter.openChar = some delimiter := by
  cases delimiter <;> rfl

/-- Every style is found by the character that closes it. -/
@[simp] theorem ofCloseChar?_closeChar (delimiter : Delimiter) :
    ofCloseChar? delimiter.closeChar = some delimiter := by
  cases delimiter <;> rfl

/-- A style is found by no other character than the one that opens it. -/
theorem openChar_of_ofOpenChar? {c : Char} {delimiter : Delimiter}
    (found : ofOpenChar? c = some delimiter) : delimiter.openChar = c := by
  rw [ofOpenChar?] at found
  have isChar := List.find?_some found
  exact beq_iff_eq.mp isChar

/-- A style is found by no other character than the one that closes it. -/
theorem closeChar_of_ofCloseChar? {c : Char} {delimiter : Delimiter}
    (found : ofCloseChar? c = some delimiter) : delimiter.closeChar = c := by
  rw [ofCloseChar?] at found
  have isChar := List.find?_some found
  exact beq_iff_eq.mp isChar

end Delimiter

end BlockData
