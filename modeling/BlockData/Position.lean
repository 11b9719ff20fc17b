/-!
# Positions

A position counts the characters before it, the line breaks before it, and the
characters since the last of those. A line break is a line feed, or a carriage
return that no line feed follows, so the pair of both is one break.
-/

namespace BlockData

/-- A place between two characters of a text. Lines and columns start at one. -/
structure Position where
  offset : Nat
  line : Nat
  column : Nat
deriving DecidableEq, Repr

/-- Whether a character, together with the one after it, ends a line. -/
def breaksLine (c : Char) (next : Option Char) : Bool :=
  c == '\n' || (c == '\r' && next != some '\n')

namespace Position

/-- The position before the first character. -/
def start : Position :=
  ⟨0, 1, 1⟩

/-- The position after one character, given the character after it. -/
def past (position : Position) (c : Char) (next : Option Char) : Position :=
  if breaksLine c next then ⟨position.offset + 1, position.line + 1, 1⟩
  else ⟨position.offset + 1, position.line, position.column + 1⟩

/-- The position after the first `count` characters of the text that follows. -/
def advance (position : Position) : Nat → List Char → Position
  | 0, _ => position
  | _ + 1, [] => position
  | count + 1, c :: rest => (position.past c rest.head?).advance count rest

/-- Passing a character moves the offset by one. -/
@[simp] theorem past_offset (position : Position) (c : Char) (next : Option Char) :
    (position.past c next).offset = position.offset + 1 := by
  unfold past
  split <;> rfl

/-- Advancing within a text moves the offset by the number of characters passed. -/
theorem advance_offset (position : Position) {count : Nat} {text : List Char}
    (within : count ≤ text.length) :
    (position.advance count text).offset = position.offset + count := by
  induction count generalizing position text with
  | zero => rfl
  | succ count inductionHypothesis =>
      cases text with
      | nil => simp at within
      | cons c rest =>
          rw [advance, inductionHypothesis _ (by simpa using within), past_offset]
          omega

end Position

end BlockData
