import BlockData.Number.Layout

/-!
# Values

The payload of a token: an integer of 64 bits, a float or a text. `Value.same`
compares values as numbers and texts, where floats follow the IEEE rules, while
`=` compares floats bit for bit.
-/

namespace BlockData

/-- The payload of a token. -/
inductive Value where
  | integer (number : Int64)
  | float (number : Binary64)
  | text (content : String)
deriving DecidableEq

namespace Value

/-- The text that a value holds, if it is a text. -/
def text? : Value → Option String
  | .text content => some content
  | _ => none

/-- Equality of values: floats are compared as numbers, and values of different
types differ. -/
def same : Value → Value → Bool
  | .integer left, .integer right => left == right
  | .float left, .float right => left.sameNumber right
  | .text left, .text right => left == right
  | _, _ => false

/-- Equality of optional values, by `same`. -/
def sameOptional : Option Value → Option Value → Bool
  | none, none => true
  | some left, some right => left.same right
  | _, _ => false

/-- The text of a value. Floats are written without an exponent. -/
def display : Value → String
  | .integer number => toString number.toInt
  | .float number => number.plainText
  | .text content => content

end Value

end BlockData
