import BlockData.Character.Ranges

/-!
# White space

The Unicode property White_Space: 25 characters in ten ranges. `trim` removes
it from both ends of a text.
-/

namespace BlockData.Character

/-- The ranges of the property White_Space. -/
def whiteSpaceRanges : List (Nat × Nat) :=
  [(0x9, 0xD), (0x20, 0x20), (0x85, 0x85), (0xA0, 0xA0), (0x1680, 0x1680), (0x2000, 0x200A),
   (0x2028, 0x2029), (0x202F, 0x202F), (0x205F, 0x205F), (0x3000, 0x3000)]

/-- Whether a character has the property White_Space. -/
def isWhiteSpace (c : Char) : Bool :=
  inRanges c.toNat whiteSpaceRanges

/-- A text without the white space at its two ends. -/
def trim (text : List Char) : List Char :=
  ((text.dropWhile isWhiteSpace).reverse.dropWhile isWhiteSpace).reverse

/-- The table is ascending. -/
theorem whiteSpaceRanges_ascending : Ascending whiteSpaceRanges := by
  simp [whiteSpaceRanges, Ascending]

end BlockData.Character
