/-!
# Quoted texts

A text in quotes may hold any character. Seven characters are escaped by a
backslash; `readQuoted` undoes the escapes up to the closing quote or the first
thing that is wrong, and `quote` writes a text in double quotes with the escapes
that it needs.
-/

namespace BlockData

/-- The character that an escape stands for. -/
def unescape? : Char → Option Char
  | 'n' => some '\n'
  | 't' => some '\t'
  | 'r' => some '\r'
  | '0' => some '\x00'
  | '\\' => some '\\'
  | '"' => some '"'
  | '\'' => some '\''
  | _ => none

/-- How reading behind an opening quote ends. Counts are of characters behind
the quote. -/
inductive QuotedReading where
  /-- The closing quote is reached; `length` includes it. -/
  | closed (content : List Char) (length : Nat)
  /-- The input ends. -/
  | unterminated
  /-- The input ends behind the backslash at `place`. -/
  | unterminatedEscape (place : Nat)
  /-- The backslash at `place` stands before a character that is not escaped so. -/
  | unknownEscape (place : Nat) (c : Char)
deriving DecidableEq

namespace QuotedReading

/-- The reading that starts `width` characters earlier with the character `c`. -/
def after (width : Nat) (c : Char) : QuotedReading → QuotedReading
  | .closed content length => .closed (c :: content) (length + width)
  | .unterminated => .unterminated
  | .unterminatedEscape place => .unterminatedEscape (place + width)
  | .unknownEscape place unknown => .unknownEscape (place + width) unknown

end QuotedReading

/-- Reads a quoted text behind its opening quote, which is no backslash. -/
def readQuoted (quote : Char) : List Char → QuotedReading
  | [] => .unterminated
  | ['\\'] => .unterminatedEscape 0
  | '\\' :: c :: rest =>
      match unescape? c with
      | some meant => (readQuoted quote rest).after 2 meant
      | none => .unknownEscape 0 c
  | c :: rest => if c = quote then .closed [] 1 else (readQuoted quote rest).after 1 c

/-- A character inside double quotes. -/
def escape (c : Char) : List Char :=
  if c = '\n' then ['\\', 'n']
  else if c = '\t' then ['\\', 't']
  else if c = '\r' then ['\\', 'r']
  else if c = '\x00' then ['\\', '0']
  else if c = '\\' then ['\\', '\\']
  else if c = '"' then ['\\', '"']
  else [c]

/-- A text in double quotes. -/
def quote (content : List Char) : List Char :=
  '"' :: (content.flatMap escape ++ ['"'])

end BlockData
