import BlockData.Character.WhiteSpace
import BlockData.Lexeme.Lead
import BlockData.Node

/-!
# Well-formed trees

A tree is well formed if it could be the tree of a text: the right kinds stand
below each other, and every leaf holds a value that its kind can be written with.
Places play no part. The conditions are stated on the tree alone, without its
text.
-/

namespace BlockData

/-- Whether characters may stand behind the first one of a symbol. A hyphen
stands only before a letter or a numeric character. -/
def continuesSymbol : List Char → Bool
  | [] => true
  | '-' :: rest => rest.head?.any Character.isAlphanumeric && continuesSymbol rest
  | c :: rest => (isWordChar c || c == '?' || c == '!') && continuesSymbol rest

/-- Whether a text is a symbol. -/
def isSymbolText (content : String) : Bool :=
  match content.toList with
  | [] => false
  | c :: rest => (Character.isAlphabetic c || c == '_') && continuesSymbol rest

/-- Whether a text is an operator. -/
def isOperatorText (content : String) : Bool :=
  !content.isEmpty && content.toList.all isOperatorChar

/-- Whether a text is the content of a comment: one line without white space
around it. -/
def isCommentText (content : String) : Bool :=
  Character.trim content.toList == content.toList &&
    content.toList.all fun c => c != '\n' && c != '\r'

/-- Whether a leaf of a kind of values can hold a value. -/
def ValueKind.admits : ValueKind → Option Value → Bool
  | .integer, some (.integer _) => true
  | .float, some (.float number) => number.isFinite
  | .string, some (.text _) => true
  | .symbol, some (.text content) => isSymbolText content
  | .operator, some (.text content) => isOperatorText content
  | .colon, none => true
  | .comma, none => true
  | .period, none => true
  | _, _ => false

namespace Node

/-- Whether a node is a leaf with a value of an expression. -/
def isValueLeaf : Node → Bool
  | .node (.leaf (.value kind)) value _ [] => kind.admits value
  | _ => false

mutual

/-- Whether a node is a statement: an expression, a block or a comment. -/
def isStatement : Node → Bool
  | .node .expression none _ children => areHeadAndParameters children
  | .node (.block _) none _ children => areStatements children
  | .node (.leaf .comment) (some (.text content)) _ [] => isCommentText content
  | _ => false

/-- Whether all nodes are statements. -/
def areStatements : List Node → Bool
  | [] => true
  | first :: rest => first.isStatement && areStatements rest

/-- Whether nodes are the children of an expression: a value, and a list of
parameters. -/
def areHeadAndParameters : List Node → Bool
  | [head, .node .paramlist none _ parameters] => head.isValueLeaf && areParameters parameters
  | _ => false

/-- Whether a node is a parameter: a block or a value. -/
def isParameter : Node → Bool
  | .node (.block _) none _ children => areStatements children
  | leaf => leaf.isValueLeaf

/-- Whether all nodes are parameters. -/
def areParameters : List Node → Bool
  | [] => true
  | first :: rest => first.isParameter && areParameters rest

end

/-- Whether a tree is well formed: a root over one program over statements. -/
def isWellFormed : Node → Bool
  | .node .root none _ [.node .program none _ statements] => areStatements statements
  | _ => false

end Node

end BlockData
