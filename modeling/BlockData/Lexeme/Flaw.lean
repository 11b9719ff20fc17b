/-!
# Flaws

The reasons why characters form no token, and how each is reported.
-/

namespace BlockData

/-- Why some characters form no token. -/
inductive Flaw where
  /-- A backslash outside of a string that does not end its line. -/
  | strayBackslash
  /-- A character that starts no token. -/
  | unexpectedCharacter (c : Char)
  /-- A string without its closing quote. -/
  | unterminatedString
  /-- A backslash in a string at the end of the input. -/
  | unterminatedEscape
  /-- A backslash in a string before a character that is not escaped so. -/
  | unknownEscape (c : Char)
  /-- A number that runs into a word. -/
  | invalidNumber (lexeme : List Char)
  /-- An integer literal beyond 64 bits. -/
  | integerOutOfRange (lexeme : List Char)
  /-- A float literal beyond the finite numbers. -/
  | floatOutOfRange (literal : List Char)
deriving DecidableEq

/-- The report of a flaw. -/
def Flaw.message : Flaw → String
  | .strayBackslash => "Stray backslash outside of a string"
  | .unexpectedCharacter c => s!"Unexpected character: '{c}'"
  | .unterminatedString => "Unterminated string"
  | .unterminatedEscape => "Unterminated escape sequence"
  | .unknownEscape c => s!"Unknown escape sequence: '\\{c}'"
  | .invalidNumber lexeme => s!"Invalid number: '{String.ofList lexeme}'"
  | .integerOutOfRange lexeme => s!"Integer out of range: '{String.ofList lexeme}'"
  | .floatOutOfRange literal => s!"Float out of range: '{String.ofList literal}'"

end BlockData
