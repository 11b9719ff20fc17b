import BlockData.Delimiter
import BlockData.Value

/-!
# Tokens

A token has a kind, perhaps a value, and the place where it was read. The kinds
are grouped by the part that they play in the grammar: values, terminators,
brackets, comments, and trivia that the grammar never sees.
-/

namespace BlockData

/-- Kinds of tokens that start an expression or are a parameter of one. -/
inductive ValueKind where
  | integer
  | float
  | string
  | symbol
  | operator
  | colon
  | comma
  | period
deriving DecidableEq, Repr

/-- Kinds of tokens that end an expression. The grammar does not tell them apart. -/
inductive Terminator where
  | newline
  | semicolon
deriving DecidableEq, Repr

/-- Kinds of tokens without a meaning. -/
inductive Trivia where
  | whitespace
  | escapedNewline
deriving DecidableEq, Repr

/-- The kind of a token. -/
inductive Kind where
  | value (kind : ValueKind)
  | terminator (kind : Terminator)
  | opening (delimiter : Delimiter)
  | closing (delimiter : Delimiter)
  | comment
  | trivia (kind : Trivia)
  | eof
  | fail
deriving DecidableEq, Repr

namespace Kind

/-- The name of a kind in diagnostics. -/
def name : Kind → String
  | .value .integer => "integer"
  | .value .float => "float"
  | .value .string => "string"
  | .value .symbol => "symbol"
  | .value .operator => "operator"
  | .value .colon => "colon"
  | .value .comma => "comma"
  | .value .period => "period"
  | .terminator .newline => "nl"
  | .terminator .semicolon => "semicolon"
  | .opening .curly => "lcurly"
  | .closing .curly => "rcurly"
  | .opening .paren => "lparen"
  | .closing .paren => "rparen"
  | .opening .bracket => "lbracket"
  | .closing .bracket => "rbracket"
  | .comment => "comment"
  | .trivia .whitespace => "ws"
  | .trivia .escapedNewline => "esc_nl"
  | .eof => "eof"
  | .fail => "fail"

/-- All kinds. -/
def all : List Kind :=
  [.value .integer, .value .float, .value .string, .value .symbol, .value .operator,
   .value .colon, .value .comma, .value .period, .terminator .newline, .terminator .semicolon,
   .opening .curly, .closing .curly, .opening .paren, .closing .paren, .opening .bracket,
   .closing .bracket, .comment, .trivia .whitespace, .trivia .escapedNewline, .eof, .fail]

/-- The kind with a name. -/
def ofName? (name : String) : Option Kind :=
  all.find? fun kind => kind.name == name

/-- Whether a kind starts an expression or is a parameter of one. -/
def isValue : Kind → Bool
  | .value _ => true
  | _ => false

/-- Whether a kind ends an expression. -/
def isTerminator : Kind → Bool
  | .terminator _ => true
  | _ => false

/-- Whether the grammar never sees a kind. -/
def isTrivia : Kind → Bool
  | .trivia _ => true
  | _ => false

/-- Whether a kind ends the statements of a program or block. -/
def endsProgram : Kind → Bool
  | .closing _ => true
  | .eof => true
  | _ => false

end Kind

/-- Where a token stands: the characters from `start` up to but not including
`stop`, and the line and column where it is reported, both from one on. -/
structure Span where
  start : Nat
  stop : Nat
  line : Nat
  column : Nat
deriving DecidableEq, Repr

/-- A token. -/
structure Token where
  kind : Kind
  value : Option Value
  span : Span
deriving DecidableEq

namespace Token

/-- The end of input at some place. -/
def atEnd (span : Span) : Token :=
  ⟨.eof, none, span⟩

/-- Whether a token stands for malformed input. -/
def isFail (token : Token) : Bool :=
  token.kind == .fail

/-- The reason that a malformed token gives. -/
def failMessage? (token : Token) : Option String :=
  if token.isFail then token.value.bind Value.text? else none

end Token

/-- Malformed input, and where it is reported. -/
structure LexicalError where
  message : String
  line : Nat
  column : Nat
deriving DecidableEq

namespace LexicalError

/-- The error that a token stands for. -/
def ofToken (token : Token) : LexicalError where
  message := token.failMessage?.getD "Lex error"
  line := token.span.line
  column := token.span.column

/-- The error as a line of text. -/
def display (error : LexicalError) : String :=
  s!"Lexer error at line {error.line}, column {error.column}: {error.message}"

end LexicalError

end BlockData
