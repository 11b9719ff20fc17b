import BlockData.Position
import Mathlib.Data.List.DropRight

/-!
# Lines of texts

The line and the column of an offset, counted over the whole text: the line breaks before
the offset, and the characters since the last of them. A position keeps two counters
instead and moves by one character at a time. `Position.advance_ofOffset` says that the
counters agree with the counts wherever the position stops, be it between a carriage return
and its line feed.
-/

namespace BlockData

/-- Whether a line ends with the character at an index: a line feed, or a carriage return
that no line feed follows. -/
def isBreakAt (text : List Char) (index : Nat) : Bool :=
  text[index]? == some '\n' || (text[index]? == some '\r' && text[index + 1]? != some '\n')

/-- The line of an offset, from one on: it counts the line breaks before the offset. -/
def lineAt (text : List Char) (offset : Nat) : Nat :=
  1 + (List.range offset).countP (isBreakAt text)

/-- The column of an offset, from one on: it counts the characters between the last line
break before the offset and the offset. -/
def columnAt (text : List Char) (offset : Nat) : Nat :=
  1 + ((List.range offset).rtakeWhile fun index => !isBreakAt text index).length

/-- The position of an offset in a text. -/
def Position.ofOffset (text : List Char) (offset : Nat) : Position :=
  ⟨offset, lineAt text offset, columnAt text offset⟩

/-- The line behind a character. -/
theorem lineAt_succ (text : List Char) (offset : Nat) :
    lineAt text (offset + 1) = lineAt text offset + if isBreakAt text offset then 1 else 0 := by
  simp only [lineAt, List.range_succ, List.countP_append, List.countP_singleton, Nat.add_assoc]

/-- The column behind a character. -/
theorem columnAt_succ (text : List Char) (offset : Nat) :
    columnAt text (offset + 1) = if isBreakAt text offset then 1 else columnAt text offset + 1 := by
  simp only [columnAt, List.range_succ]
  by_cases breaks : isBreakAt text offset = true
  · rw [if_pos breaks, List.rtakeWhile_concat_neg _ _ _ (by simp [breaks])]
    rfl
  · rw [if_neg breaks, List.rtakeWhile_concat_pos _ _ _ (by simp [breaks]), List.length_append]
    rfl

section

variable (text : List Char)

/-- The line breaks behind an offset are those of the characters behind it. -/
theorem isBreakAt_drop (start index : Nat) :
    isBreakAt (text.drop start) index = isBreakAt text (start + index) := by
  simp only [isBreakAt, List.getElem?_drop, Nat.add_assoc]

/-- The line of an offset counts on from that of an earlier one. -/
theorem lineAt_add (start offset : Nat) :
    lineAt text (start + offset) = lineAt text start + (lineAt (text.drop start) offset - 1) := by
  induction offset with
  | zero => rfl
  | succ offset inductionHypothesis =>
      have positive : 1 ≤ lineAt (text.drop start) offset := Nat.le_add_right 1 _
      rw [← Nat.add_assoc, lineAt_succ, inductionHypothesis, lineAt_succ, isBreakAt_drop]
      omega

/-- The column of an offset counts on from that of an earlier one on the same line only. -/
theorem columnAt_add (start offset : Nat) :
    columnAt text (start + offset) =
      if lineAt (text.drop start) offset = 1 then
        columnAt text start + (columnAt (text.drop start) offset - 1)
      else columnAt (text.drop start) offset := by
  induction offset with
  | zero => rfl
  | succ offset inductionHypothesis =>
      have line : 1 ≤ lineAt (text.drop start) offset := Nat.le_add_right 1 _
      have column : 1 ≤ columnAt (text.drop start) offset := Nat.le_add_right 1 _
      rw [← Nat.add_assoc, columnAt_succ, inductionHypothesis, lineAt_succ, columnAt_succ,
        isBreakAt_drop]
      cases isBreakAt text (start + offset) with
      | true => rw [if_pos rfl, if_pos rfl, if_pos rfl, if_neg (by omega)]
      | false =>
          simp only [Bool.false_eq_true, if_false, Nat.add_zero]
          split <;> omega

variable {text} {index offset stop : Nat}

/-- Whether a line ends with a character can be seen from it and the one behind it. -/
theorem isBreakAt_take (inside : index + 1 < stop) :
    isBreakAt (text.take stop) index = isBreakAt text index := by
  simp only [isBreakAt, List.getElem?_take, if_pos inside, if_pos (Nat.lt_of_succ_lt inside)]

/-- The line of an offset does not depend on the characters behind the one there. -/
theorem lineAt_take (inside : offset < stop) :
    lineAt (text.take stop) offset = lineAt text offset := by
  induction offset with
  | zero => rfl
  | succ offset inductionHypothesis =>
      rw [lineAt_succ, lineAt_succ, isBreakAt_take inside,
        inductionHypothesis (Nat.lt_of_succ_lt inside)]

/-- The column of an offset does not depend on the characters behind the one there. -/
theorem columnAt_take (inside : offset < stop) :
    columnAt (text.take stop) offset = columnAt text offset := by
  induction offset with
  | zero => rfl
  | succ offset inductionHypothesis =>
      rw [columnAt_succ, columnAt_succ, isBreakAt_take inside,
        inductionHypothesis (Nat.lt_of_succ_lt inside)]

end

namespace Position

/-- Passing the character at an offset leads to the position of the next offset. -/
theorem past_ofOffset {text : List Char} {offset : Nat} {c : Char}
    (isNext : text[offset]? = some c) :
    (ofOffset text offset).past c text[offset + 1]? = ofOffset text (offset + 1) := by
  have breaks : breaksLine c text[offset + 1]? = isBreakAt text offset := by
    simp [breaksLine, isBreakAt, isNext]
  rw [past, breaks, ofOffset, ofOffset, lineAt_succ, columnAt_succ]
  cases isBreakAt text offset <;> rfl

/-- Advancing through a text from the position of an offset leads to the position of the
offset that is reached. -/
theorem advance_ofOffset {text : List Char} {offset count : Nat}
    (inside : offset + count ≤ text.length) :
    (ofOffset text offset).advance count (text.drop offset) = ofOffset text (offset + count) := by
  induction count generalizing offset with
  | zero => rfl
  | succ count inductionHypothesis =>
      have isNext : offset < text.length := by omega
      have behind : (text.drop (offset + 1)).head? = text[offset + 1]? := List.head?_drop
      rw [List.drop_eq_getElem_cons isNext, advance, behind,
        past_ofOffset (List.getElem?_eq_getElem isNext), inductionHypothesis (by omega)]
      congr 1
      omega

end Position

end BlockData
