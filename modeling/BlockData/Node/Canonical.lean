import BlockData.Layout
import BlockData.Lexeme.Quoted
import BlockData.Parsing.Rules

/-!
# Canonical source

The canonical text of a program has one statement on a line. A block opens on
the line that uses it, its statements stand one level deeper, and it closes on a
line of its own; a block without statements is just its two brackets. Parsing
the canonical text gives a tree of the same shape.

Only a tree that is no parsed program can fail to print, and the first node in
the order of the text that cannot be written says why.
-/

namespace BlockData

/-- Why a tree has no canonical text. -/
inductive PrintError where
  | noProgram
  | notAStatement (kind : NodeKind)
  | brokenExpression
  | commentAsValue
  | notALeaf (kind : NodeKind)
  | unprintableLeaf (kind : Kind)
deriving DecidableEq

namespace PrintError

/-- The message of an error. -/
def message : PrintError → String
  | .noProgram => "tree has no program"
  | .notAStatement kind => kind.name ++ " is not a statement"
  | .brokenExpression => "expression needs a value and a paramlist"
  | .commentAsValue => "a comment cannot be a value"
  | .notALeaf kind => kind.name ++ " is not a leaf"
  | .unprintableLeaf kind => "cannot print a " ++ kind.name ++ " leaf"

/-- An error as a line of text. -/
def display (error : PrintError) : String :=
  "Print error: " ++ error.message

end PrintError

/-- A text in double quotes, as it is written in source. -/
def quoteText (content : String) : String :=
  String.ofList (quote content.toList)

namespace Node

/-- A token as it is written in source. -/
def tokenText (kind : Kind) (value : Option Value) : Except PrintError String :=
  match kind, value with
  | .value .colon, _ => .ok ":"
  | .value .comma, _ => .ok ","
  | .value .period, _ => .ok "."
  | .value .string, some (.text content) => .ok (quoteText content)
  | .comment, some (.text content) => .ok (if content = "" then "#" else "# " ++ content)
  | .value .integer, some value => .ok value.display
  | .value .float, some value => .ok value.display
  | .value .symbol, some value => .ok value.display
  | .value .operator, some value => .ok value.display
  | kind, _ => .error (.unprintableLeaf kind)

/-- A leaf as it is written in source. -/
def leafText (leaf : Node) : Except PrintError String :=
  match leaf.kind with
  | .leaf kind => tokenText kind leaf.value
  | kind => .error (.notALeaf kind)

/-- A value of an expression as it is written in source. -/
def valueText (leaf : Node) : Except PrintError String :=
  if leaf.kind = .leaf .comment then .error .commentAsValue else leaf.leafText

mutual

/-- A statement that starts on a line of some depth. -/
def statementPieces (depth : Nat) : Node → Except PrintError (List Piece)
  | .node .expression _ _ children => expressionPieces depth children
  | .node (.block delimiter) _ _ children => blockPieces depth delimiter children
  | .node (.leaf .comment) value _ _ => do return [.text (← tokenText .comment value)]
  | .node kind _ _ _ => .error (.notAStatement kind)

/-- The children of an expression: a value, and a list of parameters. -/
def expressionPieces (depth : Nat) : List Node → Except PrintError (List Piece)
  | [head, .node .paramlist _ _ parameters] => do
      let headText ← head.valueText
      let others ← parameterPieces depth parameters
      return .text headText :: others
  | _ => .error .brokenExpression

/-- Parameters, each behind a space. -/
def parameterPieces (depth : Nat) : List Node → Except PrintError (List Piece)
  | [] => .ok []
  | .node (.block delimiter) _ _ children :: rest => do
      let block ← blockPieces depth delimiter children
      let others ← parameterPieces depth rest
      return .text " " :: (block ++ others)
  | leaf :: rest => do
      let leafText ← leaf.valueText
      let others ← parameterPieces depth rest
      return .text " " :: .text leafText :: others

/-- A block that opens on a line of some depth. -/
def blockPieces (depth : Nat) (delimiter : Delimiter) :
    List Node → Except PrintError (List Piece)
  | [] => .ok [.text (String.ofList [delimiter.openChar, delimiter.closeChar])]
  | first :: rest => do
      let firstPieces ← statementPieces (depth + 1) first
      let others ← linesPieces (depth + 1) rest
      return .text delimiter.openChar.toString :: .newLine (depth + 1) :: (firstPieces ++ others ++
        [.newLine depth, .text delimiter.closeChar.toString])

/-- Statements, each on a new line. -/
def linesPieces (depth : Nat) : List Node → Except PrintError (List Piece)
  | [] => .ok []
  | statement :: rest => do
      let pieces ← statementPieces depth statement
      let others ← linesPieces depth rest
      return .newLine depth :: (pieces ++ others)

end

/-- The statements of a program, each with the end of its line. -/
def programPieces : List Node → Except PrintError (List Piece)
  | [] => .ok []
  | statement :: rest => do
      let pieces ← statementPieces 0 statement
      let others ← programPieces rest
      return pieces ++ .newLine 0 :: others

/-- The canonical text of the program of a tree, with any number of spaces for a level
(`Piece.render`). -/
def canonical (indent : Nat) (tree : Node) : Except PrintError String :=
  match tree.program? with
  | none => .error .noProgram
  | some program => do return renderPieces indent (← programPieces program.children)

end Node

/-- The indentation of canonical text unless another one is asked for. -/
def defaultIndent : Nat :=
  2

/-- Why a text cannot be reformatted. -/
inductive FormatError where
  | parsing (error : ParseError)
  | printing (error : PrintError)
deriving DecidableEq

/-- An error as a line of text. -/
def FormatError.display : FormatError → String
  | .parsing error => error.display
  | .printing error => error.display

/-- The canonical text of a text. -/
def reformat (indent : Nat) (source : String) : Except FormatError String :=
  match parse source with
  | .error error => .error (.parsing error)
  | .ok tree =>
      match tree.canonical indent with
      | .error error => .error (.printing error)
      | .ok text => .ok text

end BlockData
