import BlockData.Proofs.Pulling.Agreement
import Mathlib

/-!
# How many tokens are pulled

On a source that comes to an end, parsing does as well. It has then pulled the tokens of the
source one after the other, the token that an error reports as the last one, or for a tree the
one behind the end of input (`Parser.run_stops`). Nothing that the source would have handed out
later plays a part.
-/

namespace BlockData.Parser

/-- The first end of input that a source hands out has this number. -/
structure EndsFirstAt (source : Nat → Token) (atEnd : Nat) : Prop where
  isEnd : (source atEnd).kind = .eof
  isFirst : ∀ index < atEnd, (source index).kind ≠ .eof

/-- How parsing may end on a source whose first end of input has a certain number, and the number
of the last token that is pulled. -/
inductive StopsAt (source : Nat → Token) (atEnd : Nat) :
    Except ParseError Node → Nat → Prop where
  /-- For a tree, the token behind the end of input is pulled. -/
  | tree (tree : Node) : StopsAt source atEnd (.ok tree) (atEnd + 1)
  /-- The last token may not stand where it does. It does not stand behind the end of input. -/
  | unexpected (wanted : Wanted) (last : Nat) (within : last ≤ atEnd) :
      StopsAt source atEnd
        (.error (.unexpected (source last).kind wanted (source last).span.line
          (source last).span.column)) last
  /-- The last token is the first malformed one. It may stand just behind the end of input. -/
  | malformed (last : Nat) (within : last ≤ atEnd + 1) (isFail : (source last).isFail = true)
      (isFirst : ∀ index < last, (source index).isFail = false) :
      StopsAt source atEnd (.error (.lexical (.ofToken (source last)))) last

section

variable {source : Nat → Token} {atEnd count : Nat} {after final : Parser}

/-- What is ahead of a parser that has pulled the first token. -/
theorem ahead_first (source : Nat → Token) (index : Nat) :
    (fresh.next source).ahead source index = source index := by
  rw [ahead_next]
  exact congrArg source (Nat.zero_add index)

/-- The tokens pulled when some were consumed since the first one was pulled. -/
theorem Consumes.pulled_of_first (consumed : Consumes source (fresh.next source) count after) :
    after.pulled = (List.range (count + 1)).map source := by
  rw [consumed.pulled, List.range_succ_eq_map, List.map_cons, List.map_map]
  change source 0 :: ([] ++ _) = _
  rw [List.nil_append]
  refine congrArg (source 0 :: ·) (List.map_congr_left fun index _ => ?_)
  exact congrArg source (Nat.add_comm 1 index)

/-- The lookahead when some tokens were consumed since the first one was pulled. -/
theorem Consumes.lookahead_of_first (consumed : Consumes source (fresh.next source) count after) :
    after.lookahead = source count := by
  rw [consumed.lookahead, ahead_first]

/-- No consumed token is the end of input or malformed. -/
theorem Consumes.clean_of_first (consumed : Consumes source (fresh.next source) count after) :
    ∀ index < count, (source index).kind ≠ .eof ∧ (source index).kind ≠ .fail := by
  intro index inside
  rw [← ahead_first source index]
  exact consumed.clean index inside

/-- The end of input is not consumed by the rules. -/
theorem EndsFirstAt.le_of_consumes (ends : EndsFirstAt source atEnd)
    (consumed : Consumes source (fresh.next source) count after) : count ≤ atEnd := by
  rw [← Nat.not_lt]
  intro behind
  exact (consumed.clean_of_first atEnd behind).1 ends.isEnd

/-- No consumed token is malformed. -/
theorem Consumes.isFail_of_first (consumed : Consumes source (fresh.next source) count after) :
    ∀ index < count, (source index).isFail = false := by
  intro index inside
  rw [Token.isFail, beq_eq_false_iff_ne]
  exact (consumed.clean_of_first index inside).2

/-- A failure of a rule is about the last token that was pulled. -/
theorem EndsFirstAt.stopsAt_of_fails (ends : EndsFirstAt source atEnd) {error : ParseError}
    (fails : FailsBehind source (fresh.next source) error final) :
    ∃ last, final.pulled = (List.range (last + 1)).map source ∧
      StopsAt source atEnd (.error error) last := by
  obtain ⟨count, consumed, isAbout⟩ := fails
  have within := ends.le_of_consumes consumed
  rw [consumed.lookahead_of_first] at isAbout
  refine ⟨count, consumed.pulled_of_first, ?_⟩
  cases isAbout with
  | lexical isFail =>
      exact .malformed count (Nat.le_succ_of_le within) isFail consumed.isFail_of_first
  | unexpected wanted => exact .unexpected wanted count within

/-- The tokens pulled when one more is pulled. -/
theorem Consumes.pulled_next_of_first (consumed : Consumes source (fresh.next source) count after) :
    (after.next source).pulled = (List.range (count + 1 + 1)).map source := by
  change after.pulled ++ [source after.pulled.length] = _
  rw [consumed.pulled_of_first, List.length_map, List.length_range,
    @List.range_succ (count + 1), List.map_append, List.map_singleton]

/-- The end of input that was reached is the first one. -/
theorem EndsFirstAt.eq_of_consumes (ends : EndsFirstAt source atEnd)
    (consumed : Consumes source (fresh.next source) count after)
    (isEnd : after.lookahead.kind = .eof) : count = atEnd := by
  refine Nat.le_antisymm (ends.le_of_consumes consumed) (Nat.not_lt.mp fun behind => ?_)
  rw [consumed.lookahead_of_first] at isEnd
  exact ends.isFirst count behind isEnd

/-- No token up to the first end of input is malformed if none before it is. -/
theorem EndsFirstAt.isFail_of_consumes (ends : EndsFirstAt source atEnd)
    (consumed : Consumes source (fresh.next source) atEnd after) :
    ∀ index < atEnd + 1, (source index).isFail = false := by
  intro index inside
  rcases Nat.lt_succ_iff_lt_or_eq.mp inside with isBefore | rfl
  · exact consumed.isFail_of_first index isBefore
  · rw [Token.isFail, ends.isEnd]
    rfl

/-- A program is followed by the end of input, which is the first one, or it is an error. -/
theorem root_stops (ends : EndsFirstAt source atEnd) {result : Except ParseError Node}
    {depth : Nat}
    (ran : (fresh.next source).outcome (root source (rules source depth)) =
      some (result, final)) :
    ∃ last, final.pulled = (List.range (last + 1)).map source ∧
      StopsAt source atEnd result last := by
  rw [root, outcome_get_bind, outcome_bind_eq_some] at ran
  obtain ⟨inner, reached, isProgram, ran⟩ | ⟨error, reached, isProgram, ended⟩ := ran
  · obtain ⟨-, -, count, consumed, -⟩ := (rules_keep source depth).program _ _ isProgram
    rw [outcome_bind, outcome_expect, afterNext] at ran
    split at ran
    · rename_i isEnd
      obtain rfl := ends.eq_of_consumes consumed (by simpa using isEnd)
      have isBehind : (reached.next source).lookahead = source (count + 1) := by
        change source reached.pulled.length = _
        rw [consumed.pulled_of_first, List.length_map, List.length_range]
      rw [isBehind] at ran
      refine ⟨count + 1, ?_⟩
      split at ran <;> obtain ⟨rfl, rfl⟩ := Prod.mk.inj (Option.some.inj ran)
      · rename_i malformed
        exact ⟨consumed.pulled_next_of_first,
          .malformed _ (Nat.le_refl _) malformed (ends.isFail_of_consumes consumed)⟩
      · exact ⟨consumed.pulled_next_of_first, .tree _⟩
    · obtain ⟨rfl, rfl⟩ := Prod.mk.inj (Option.some.inj ran)
      exact ends.stopsAt_of_fails ⟨count, consumed, .unexpected _⟩
  · obtain ⟨rfl, rfl⟩ := Prod.mk.inj ended
    exact ends.stopsAt_of_fails ((rules_keep source depth).program _ _ isProgram)

/-- Whenever parsing comes to an end, it has pulled the tokens up to the one that it stopped at. -/
theorem run_stops (ends : EndsFirstAt source atEnd) {result : Except ParseError Node}
    (runs : RunsTo source (result, final)) :
    ∃ last, final.pulled = (List.range (last + 1)).map source ∧
      StopsAt source atEnd result last := by
  obtain ⟨depth, ran⟩ := runs
  rw [run, outcome_bind, outcome_advance, Option.bind_some, afterNext] at ran
  by_cases malformed : (fresh.next source).lookahead.isFail = true
  · rw [if_pos malformed] at ran
    obtain ⟨rfl, rfl⟩ := Prod.mk.inj (Option.some.inj ran)
    exact ends.stopsAt_of_fails ⟨0, .refl source _, .lexical malformed⟩
  · rw [if_neg malformed] at ran
    exact root_stops ends ran

/-- Parsing stops no later than behind the end of input. -/
theorem StopsAt.le {result : Except ParseError Node} {last : Nat}
    (stops : StopsAt source atEnd result last) : last ≤ atEnd + 1 := by
  cases stops with
  | tree => exact Nat.le_refl _
  | unexpected _ _ within => exact Nat.le_succ_of_le within
  | malformed _ within => exact within

/-- The stream of the tokens of a source up to the one behind the end of input. -/
def streamOf (source : Nat → Token) (atEnd : Nat) : TokenStream :=
  ⟨(List.range (atEnd + 2)).map source, (source atEnd).span⟩

/-- The stream has the same tokens as the source. -/
theorem token_streamOf {index : Nat} (within : index ≤ atEnd + 1) :
    (streamOf source atEnd).token index = source index := by
  have inside : index < ((List.range (atEnd + 2)).map source).length := by
    rw [List.length_map, List.length_range]
    omega
  rw [TokenStream.token, streamOf, List.getD_eq_getElem _ _ inside, List.getElem_map,
    List.getElem_range]

/-- A source and the stream of its tokens come to an end alike. -/
theorem EndsFirstAt.of_streamOf (ends : EndsFirstAt source atEnd) :
    EndsFirstAt (streamOf source atEnd).token atEnd where
  isEnd := by rw [token_streamOf (Nat.le_succ atEnd), ends.isEnd]
  isFirst := fun index isBefore => by
    rw [token_streamOf (by omega)]
    exact ends.isFirst index isBefore

/-- A source that comes to an end is parsed as the stream of its tokens is, and no token that is
not pulled plays a part. -/
theorem EndsFirstAt.exists_runs (ends : EndsFirstAt source atEnd) : ∃ final,
    ∀ other, (∀ index < final.pulled.length, other index = source index) →
      RunsTo other ((streamOf source atEnd).parse, final) := by
  obtain ⟨final, endsAlike⟩ := exists_runsTo (streamOf source atEnd)
  obtain ⟨last, pulled, stops⟩ := run_stops ends.of_streamOf (endsAlike _ fun _ _ => rfl)
  have isShort : final.pulled.length ≤ atEnd + 2 := by
    rw [pulled, List.length_map, List.length_range]
    exact Nat.succ_le_succ stops.le
  refine ⟨final, fun other agrees => endsAlike other fun index inside => ?_⟩
  rw [agrees index inside, token_streamOf (by omega)]

/-- Parsing comes to an end on a source that does, and in one way only. It has pulled the tokens
of the source one after the other, up to the one that it stopped at, and no other token plays a
part: all sources that hand out the same tokens so far are parsed alike, and so is every stream
of such tokens. -/
theorem run_pulls_each_once (ends : EndsFirstAt source atEnd) :
    ∃ result final last, RunsTo source (result, final) ∧
      (∀ ended, RunsTo source ended → ended = (result, final)) ∧
      final.pulled = (List.range (last + 1)).map source ∧ StopsAt source atEnd result last ∧
      (∀ other, (∀ index ≤ last, other index = source index) →
        RunsTo other (result, final)) ∧
      ∀ stream : TokenStream, (∀ index ≤ last, stream.token index = source index) →
        stream.parse = result := by
  obtain ⟨final, endsAlike⟩ := ends.exists_runs
  have runs := endsAlike source fun _ _ => rfl
  obtain ⟨last, pulled, stops⟩ := run_stops ends runs
  have alike : ∀ other, (∀ index ≤ last, other index = source index) →
      RunsTo other ((streamOf source atEnd).parse, final) := fun other agrees =>
    endsAlike other fun index inside => by
      rw [pulled, List.length_map, List.length_range] at inside
      exact agrees index (Nat.le_of_lt_succ inside)
  refine ⟨_, final, last, runs, fun ended runsTo => runsTo.unique runs, pulled, stops, alike,
    fun stream agrees => ?_⟩
  obtain ⟨reached, endsAsStream⟩ := exists_runsTo stream
  have same := (endsAsStream stream.token fun _ _ => rfl).unique (alike stream.token agrees)
  exact (Prod.mk.inj same).1

end

/-- A block of one expression is parsed by pulling its four tokens, the end of input and the
token behind that. -/
theorem run_pulls_each_once_of_block :
    let source : Nat → Token := fun index =>
      [Nesting.bareToken (.opening .curly), Nesting.bareToken (.value .symbol),
        Nesting.bareToken (.terminator .newline), Nesting.bareToken (.closing .curly)].getD index
        (Nesting.bareToken .eof)
    EndsFirstAt source 4 ∧ ∃ tree final, RunsTo source (.ok tree, final) ∧
      final.pulled = (List.range 6).map source ∧
      ∀ stream : TokenStream, (∀ index ≤ 5, stream.token index = source index) →
        stream.parse = .ok tree := by
  intro source
  have ends : EndsFirstAt source 4 := ⟨by decide, by decide⟩
  have isTree : (run source 11).any (fun ended => ended.1.isOk) = true := by cbv
  refine ⟨ends, ?_⟩
  obtain ⟨result, final, last, runs, isOnly, pulled, stops, -, alike⟩ := run_pulls_each_once ends
  cases ran : run source 11 with
  | none =>
      rw [ran] at isTree
      cases isTree
  | some ended =>
      obtain rfl := isOnly ended ⟨11, ran⟩
      rw [ran] at isTree
      cases stops with
      | tree tree => exact ⟨tree, final, runs, pulled, alike⟩
      | unexpected => cases isTree
      | malformed => cases isTree

end BlockData.Parser
