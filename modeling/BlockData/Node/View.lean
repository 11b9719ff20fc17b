import BlockData.Json
import BlockData.Node

/-!
# Views

The view of a tree is what is published of it: the name of each kind, the value,
the opening bracket of a block, the line and column, and the children. Its JSON
object leaves out what a node does not have.
-/

namespace BlockData

/-- The published form of a tree. -/
inductive View where
  | node (kind : String) (value : Option Value) (delimiter : Option String) (line column : Nat)
      (children : List View)

namespace View

mutual

/-- The view of a tree. -/
def ofNode : Node → View
  | .node kind value span children =>
      .node kind.name value (kind.delimiter?.map fun delimiter => delimiter.openChar.toString)
        span.line span.column (ofNodes children)

/-- The views of some trees. -/
def ofNodes : List Node → List View
  | [] => []
  | tree :: trees => ofNode tree :: ofNodes trees

end

mutual

/-- Equality of views. Values are compared by `Value.same`. -/
def same : View → View → Bool
  | .node leftKind leftValue leftDelimiter leftLine leftColumn leftChildren,
    .node rightKind rightValue rightDelimiter rightLine rightColumn rightChildren =>
      leftKind == rightKind && Value.sameOptional leftValue rightValue &&
        leftDelimiter == rightDelimiter && leftLine == rightLine && leftColumn == rightColumn &&
        sameAll leftChildren rightChildren

/-- Equality of lists of views, view by view. -/
def sameAll : List View → List View → Bool
  | [], [] => true
  | left :: lefts, right :: rights => left.same right && sameAll lefts rights
  | _, _ => false

end

/-- A value in JSON: a number or a string. -/
def jsonValue : Value → Json
  | .integer number => .number number.toInt
  | .float number => .float number
  | .text content => .string content

mutual

/-- The JSON object of a view. -/
def toJson : View → Json
  | .node kind value delimiter line column children =>
      .object <|
        ("kind", .string kind) ::
        ((value.map fun value => ("value", jsonValue value)).toList ++
          (delimiter.map fun delimiter => ("delimiter", .string delimiter)).toList ++
          [("line", .number line), ("column", .number column)] ++
          (if children.isEmpty then [] else [("children", .array (toJsons children))]))

/-- The JSON objects of some views. -/
def toJsons : List View → List Json
  | [] => []
  | view :: views => view.toJson :: toJsons views

end

end View

namespace Node

/-- The JSON text of a tree. -/
def json (pretty : Bool) (tree : Node) : String :=
  (View.ofNode tree).toJson.render pretty

end Node

end BlockData
