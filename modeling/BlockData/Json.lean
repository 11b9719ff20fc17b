import BlockData.Layout
import BlockData.Value

/-!
# JSON texts

JSON values and their two texts: the compact one, without any space, and the
pretty one with an element on a line and two spaces for a level. Floats are
written with the fewest digits that read back; those that are not finite are
`null`. The texts are those of the JSON printer that the tool is run with; what
is proved about the tool holds for any other one.
-/

namespace BlockData

/-- A JSON value. Objects keep the order of their fields. -/
inductive Json where
  | number (number : Int)
  | float (number : Binary64)
  | string (content : String)
  | array (elements : List Json)
  | object (fields : List (String × Json))

namespace Json

/-- Two hexadecimal digits. -/
def hexByte (code : Nat) : List Char :=
  List.leftpad 2 '0' (Nat.toDigits 16 code)

/-- A character inside of a JSON string. -/
def escape (c : Char) : List Char :=
  if c = '"' then ['\\', '"']
  else if c = '\\' then ['\\', '\\']
  else if c = '\x08' then ['\\', 'b']
  else if c = '\x0c' then ['\\', 'f']
  else if c = '\n' then ['\\', 'n']
  else if c = '\r' then ['\\', 'r']
  else if c = '\t' then ['\\', 't']
  else if c.toNat < 32 then ['\\', 'u', '0', '0'] ++ hexByte c.toNat
  else [c]

/-- A text as a JSON string. -/
def quoted (content : String) : String :=
  String.ofList ('"' :: (content.toList.flatMap escape ++ ['"']))

/-- Floats in JSON are positional from `1e-5` up to `1e16`, and an exponent has
a sign. -/
def floats : NumberLayout where
  least := -5
  greatest := 15
  signedExponent := true
  tie := .even

/-- A float as a JSON number. -/
def floatText (number : Binary64) : String :=
  if number.isFinite then number.text floats else "null"

/-- The end of a line in the pretty text, and what follows. -/
def lineBreak (pretty : Bool) (depth : Nat) (following : List Piece) : List Piece :=
  if pretty then .newLine depth :: following else following

/-- The name of a field and the mark behind it. -/
def fieldName (pretty : Bool) (name : String) : String :=
  quoted name ++ if pretty then ": " else ":"

mutual

/-- A value that starts on a line of some depth, and what follows. Lines are
broken only in the pretty text. -/
def piecesOnto (pretty : Bool) (depth : Nat) (following : List Piece) : Json → List Piece
  | .number integer => .text (toString integer) :: following
  | .float real => .text (floatText real) :: following
  | .string content => .text (quoted content) :: following
  | .array [] => .text "[]" :: following
  | .array (first :: rest) =>
      let closed := lineBreak pretty depth (.text "]" :: following)
      .text "[" :: lineBreak pretty (depth + 1)
        (piecesOnto pretty (depth + 1) (elementsOnto pretty (depth + 1) closed rest) first)
  | .object [] => .text "\x7b\x7d" :: following
  | .object ((name, first) :: rest) =>
      let closed := lineBreak pretty depth (.text "\x7d" :: following)
      .text "\x7b" :: lineBreak pretty (depth + 1) (.text (fieldName pretty name) ::
        piecesOnto pretty (depth + 1) (fieldsOnto pretty (depth + 1) closed rest) first)

/-- The elements of an array behind its first one. -/
def elementsOnto (pretty : Bool) (depth : Nat) (following : List Piece) : List Json → List Piece
  | [] => following
  | element :: rest =>
      .text "," :: lineBreak pretty depth
        (piecesOnto pretty depth (elementsOnto pretty depth following rest) element)

/-- The fields of an object behind its first one. -/
def fieldsOnto (pretty : Bool) (depth : Nat) (following : List Piece) :
    List (String × Json) → List Piece
  | [] => following
  | (name, value) :: rest =>
      .text "," :: lineBreak pretty depth (.text (fieldName pretty name) ::
        piecesOnto pretty depth (fieldsOnto pretty depth following rest) value)

end

/-- The text of a value, compact or pretty. -/
def render (pretty : Bool) (value : Json) : String :=
  renderPieces 2 (value.piecesOnto pretty 0 [])

end Json

end BlockData
