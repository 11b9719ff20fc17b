/-!
# Tables of code point ranges

A character property is a table of closed ranges of code points, ascending and
apart. `inRanges_iff` says what the early exit of the search relies on: in an
ascending table the search finds a code point exactly when some range holds it.
-/

namespace BlockData.Character

/-- Whether `code` lies in one of the closed ranges of an ascending table. The
search ends at the first range that starts beyond `code`. -/
def inRanges (code : Nat) : List (Nat × Nat) → Bool
  | [] => false
  | (first, last) :: rest =>
      if code < first then false else decide (code ≤ last) || inRanges code rest

/-- Every range is nonempty and ends before the next one starts. -/
def Ascending : List (Nat × Nat) → Prop
  | [] => True
  | [(first, last)] => first ≤ last
  | (first, last) :: (next, final) :: rest =>
      first ≤ last ∧ last < next ∧ Ascending ((next, final) :: rest)

/-- Every range of the tail of an ascending table starts beyond its head. -/
theorem Ascending.tail_beyond {first last : Nat} {rest : List (Nat × Nat)}
    (ascending : Ascending ((first, last) :: rest)) :
    Ascending rest ∧ ∀ range ∈ rest, last < range.1 := by
  induction rest generalizing first last with
  | nil => exact ⟨trivial, by simp⟩
  | cons next rest inductionHypothesis =>
      obtain ⟨_, apart, ascendingRest⟩ := ascending
      have beyond := inductionHypothesis ascendingRest
      have nonempty : next.1 ≤ next.2 := by
        cases rest with
        | nil => exact ascendingRest
        | cons _ _ => exact ascendingRest.1
      refine ⟨ascendingRest, fun range member => ?_⟩
      rcases List.mem_cons.mp member with rfl | member
      · exact apart
      · have := beyond.2 range member
        omega

/-- In an ascending table the search decides membership in some range. -/
theorem inRanges_iff {code : Nat} {table : List (Nat × Nat)} (ascending : Ascending table) :
    inRanges code table = true ↔ ∃ range ∈ table, range.1 ≤ code ∧ code ≤ range.2 := by
  induction table with
  | nil => simp [inRanges]
  | cons range rest inductionHypothesis =>
      obtain ⟨first, last⟩ := range
      obtain ⟨ascendingRest, beyond⟩ := ascending.tail_beyond
      have nonempty : first ≤ last := by
        cases rest with
        | nil => exact ascending
        | cons _ _ => exact ascending.1
      rw [inRanges]
      split
      · constructor
        · simp
        · rintro ⟨range, member, lower, upper⟩
          rcases List.mem_cons.mp member with rfl | member
          · simp_all; omega
          · have := beyond range member
            omega
      · simp only [Bool.or_eq_true, decide_eq_true_eq, inductionHypothesis ascendingRest,
          List.mem_cons, exists_eq_or_imp]
        constructor
        · rintro (within | inRest)
          · exact .inl ⟨by omega, within⟩
          · exact .inr inRest
        · rintro (within | inRest)
          · exact .inl within.2
          · exact .inr inRest

end BlockData.Character
