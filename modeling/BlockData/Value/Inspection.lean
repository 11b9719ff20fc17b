import BlockData.Character.Printable
import BlockData.Value

/-!
# Inspected values

The diagnostic form of a value names its type and makes every character of a
text visible: quotes, backslashes and control characters are escaped, and so is
what is not printable or would attach itself to the character before it.
-/

namespace BlockData

/-- A character by its code point. -/
def inspectCode (c : Char) : List Char :=
  '\\' :: 'u' :: '\x7b' :: (Nat.toDigits 16 c.toNat ++ ['\x7d'])

/-- A character of an inspected text. -/
def inspectChar (c : Char) : List Char :=
  if c = '\x00' then ['\\', '0']
  else if c = '\t' then ['\\', 't']
  else if c = '\r' then ['\\', 'r']
  else if c = '\n' then ['\\', 'n']
  else if c = '"' then ['\\', '"']
  else if c = '\\' then ['\\', '\\']
  else if Character.isExtendingMark c then inspectCode c
  else if Character.isPrintable c then [c]
  else inspectCode c

/-- A text in double quotes with every character visible. -/
def inspectText (content : String) : String :=
  String.ofList ('"' :: (content.toList.flatMap inspectChar ++ ['"']))

/-- Inspected floats are positional from `1e-4` up to `1e16`. -/
def inspectedFloats : NumberLayout where
  least := -4
  greatest := 15
  signedExponent := false
  tie := .larger

/-- The diagnostic form of a value. -/
def Value.inspect : Value → String
  | .integer number => "Integer(" ++ toString number.toInt ++ ")"
  | .float number => "Float(" ++ number.text inspectedFloats ++ ")"
  | .text content => "Text(" ++ inspectText content ++ ")"

end BlockData
