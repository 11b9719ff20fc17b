import BlockData.Token

/-!
# Parse errors

A text fails to parse because it is malformed, or because a token stands where
the grammar does not allow it. What was wanted there fixes the message and the
kinds that are reported as expected.
-/

namespace BlockData

/-- What the grammar wanted in place of a token. -/
inductive Wanted where
  /-- One of some kinds and nothing else. -/
  | oneOf (kinds : List Kind)
  /-- The rest of an expression, at the end of the input. The innermost open
  block is named. -/
  | restOfExpression (innermost : Option Delimiter)
  /-- A value or a block. -/
  | parameter
  /-- A statement. -/
  | statement
deriving DecidableEq

/-- The terminators of an expression. -/
def terminatorKinds : List Kind :=
  [.terminator .newline, .terminator .semicolon]

namespace Wanted

/-- The kinds that are reported as expected. -/
def expected : Wanted → List Kind
  | .oneOf kinds => kinds
  | .restOfExpression none => terminatorKinds
  | .restOfExpression (some delimiter) => terminatorKinds ++ [.closing delimiter]
  | .parameter => []
  | .statement => []

/-- The message of an error. -/
def message : Wanted → String
  | .oneOf [kind] => "Expected " ++ kind.name
  | .oneOf kinds => "Expected one of " ++ ", ".intercalate (kinds.map Kind.name)
  | .restOfExpression none => "Unexpected end of file"
  | .restOfExpression (some delimiter) =>
      "Unexpected end of file, unclosed " ++ (Kind.opening delimiter).name ++
        " (expected " ++ (Kind.closing delimiter).name ++ ")"
  | .parameter => "parameter expected"
  | .statement => "could not parse statement"

end Wanted

/-- Why a text does not parse. -/
inductive ParseError where
  /-- The input is malformed. -/
  | lexical (error : LexicalError)
  /-- A token of the kind `found` stands where something else was wanted. -/
  | unexpected (found : Kind) (wanted : Wanted) (line column : Nat)
deriving DecidableEq

namespace ParseError

/-- The message of an error, without its place. -/
def message : ParseError → String
  | .lexical error => error.message
  | .unexpected _ wanted _ _ => wanted.message

/-- The line of an error. -/
def line : ParseError → Nat
  | .lexical error => error.line
  | .unexpected _ _ line _ => line

/-- The column of an error. -/
def column : ParseError → Nat
  | .lexical error => error.column
  | .unexpected _ _ _ column => column

/-- An error as a line of text. -/
def display : ParseError → String
  | .lexical error => s!"Lex error at line {error.line}, column {error.column}: {error.message}"
  | .unexpected found wanted line column =>
      s!"Parse error in {found.name} at line {line}, column {column}: {wanted.message}"

end ParseError

end BlockData
