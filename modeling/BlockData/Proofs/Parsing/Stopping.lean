import BlockData.Proofs.Parsing.FirstError
import Mathlib

/-!
# Where parsing stops

A stream is walked through up to the first token behind which no program goes on: the end
of input, a malformed token, or one that may not stand there (`TokenStream.StopsAt`). Every
stream has one such position, and what parsing gives is decided there
(`TokenStream.parse_eq_of_verdict`). Only behind the end of a program one more token is
looked at. So two streams that stop alike are parsed alike, whatever stands further on.
-/

namespace BlockData

/-- A token is reported as another one is: with the same kind and value, on the same line and in
the same column. -/
structure Token.IsReportedAs (token other : Token) : Prop where
  kind : other.kind = token.kind
  value : other.value = token.value
  line : other.span.line = token.span.line
  column : other.span.column = token.span.column

namespace Token.IsReportedAs

variable {token other : Token}

/-- Every token is reported as it is. -/
theorem of_eq (same : other = token) : token.IsReportedAs other := by
  subst same
  exact ⟨rfl, rfl, rfl, rfl⟩

/-- Tokens that are reported alike are both malformed, or none of them is. -/
theorem isFail_eq (same : token.IsReportedAs other) : other.isFail = token.isFail := by
  rw [Token.isFail, Token.isFail, same.kind]

/-- Tokens that are reported alike are the same lexical error. -/
theorem lexicalError_eq (same : token.IsReportedAs other) :
    LexicalError.ofToken other = LexicalError.ofToken token := by
  simp only [LexicalError.ofToken, Token.failMessage?, same.isFail_eq, same.value, same.line,
    same.column]

end Token.IsReportedAs

namespace TokenStream

/-- The token at a position of a stream. The end of input repeats behind the listed ones. -/
def token (stream : TokenStream) (position : Nat) : Token :=
  stream.tokens.getD position (.atEnd stream.finalSpan)

/-- The tokens before a position of a stream. -/
def firstTokens (stream : TokenStream) (position : Nat) : List Token :=
  (List.range position).map stream.token

section

variable (stream : TokenStream) (position : Nat)

@[simp] theorem length_firstTokens : (stream.firstTokens position).length = position := by
  rw [firstTokens, List.length_map, List.length_range]

/-- One more token is taken from the next position. -/
theorem firstTokens_succ : stream.firstTokens (position + 1) =
    stream.firstTokens position ++ [stream.token position] := by
  rw [firstTokens, List.range_succ, List.map_append, List.map_singleton, firstTokens]

/-- The tokens before a later position go on with the one at an earlier position. -/
theorem exists_firstTokens_eq {later : Nat} (before : position < later) :
    ∃ others, stream.firstTokens later =
      stream.firstTokens position ++ stream.token position :: others := by
  have shorter : (List.range later).take (position + 1) = List.range (position + 1) := by
    rw [List.take_range, Nat.min_eq_left before]
  have taken : stream.firstTokens (position + 1) <+: stream.firstTokens later := by
    rw [firstTokens, ← shorter, List.map_take, ← firstTokens]
    exact List.take_prefix _ _
  obtain ⟨others, split⟩ := taken
  exact ⟨others, by rw [← split, firstTokens_succ, List.append_assoc, List.singleton_append]⟩

end

section

variable {stream : TokenStream} {before after : List Token}

/-- The tokens behind the first ones of a stream. -/
theorem token_of_split (split : stream.tokens = before ++ after) (index : Nat) :
    stream.token (before.length + index) = after.getD index (.atEnd stream.finalSpan) := by
  rw [token, split, List.getD_append_right _ _ _ _ (Nat.le_add_right ..), Nat.add_sub_cancel_left]

/-- The token right behind the first ones of a stream. -/
theorem token_length_of_split (split : stream.tokens = before ++ after) :
    stream.token before.length = after.headD (.atEnd stream.finalSpan) := by
  have behind := token_of_split split 0
  rw [Nat.add_zero] at behind
  rw [behind]
  cases after <;> rfl

/-- The token one further behind the first ones of a stream. -/
theorem token_succ_of_split (split : stream.tokens = before ++ after) :
    stream.token (before.length + 1) = after.tail.headD (.atEnd stream.finalSpan) := by
  rw [token_of_split split]
  rcases after with _ | ⟨_, _ | _⟩ <;> rfl

/-- The first tokens of a stream. -/
theorem firstTokens_of_split (split : stream.tokens = before ++ after) :
    stream.firstTokens before.length = before := by
  refine List.ext_getElem (by rw [length_firstTokens]) fun index _ inside => ?_
  rw [List.getElem_of_eq (firstTokens.eq_1 stream _), List.getElem_map, List.getElem_range, token,
    split, List.getD_append _ _ _ _ inside, List.getD_eq_getElem _ _ inside]

end

/-- The tokens before a position may stand where they do, and behind them no program goes on
with the token there. That token may still be the end of input. -/
structure StopsAt (stream : TokenStream) (position : Nat) (reached : Nesting) : Prop where
  walked : Nesting.top.afterAll? (stream.firstTokens position) = some reached
  stops : reached.after? (stream.token position).kind = none

/-- A stream stops at one position only. -/
theorem StopsAt.unique {stream : TokenStream} {position other : Nat}
    {reached otherReached : Nesting} (first : stream.StopsAt position reached)
    (second : stream.StopsAt other otherReached) :
    position = other ∧ reached = otherReached := by
  have notBefore : ∀ {early late : Nat} {atEarly atLate : Nesting}, stream.StopsAt early atEarly →
      stream.StopsAt late atLate → ¬early < late := by
    intro early late atEarly atLate stopsEarly stopsLate isBefore
    obtain ⟨others, split⟩ := stream.exists_firstTokens_eq early isBefore
    have walked := stopsLate.walked
    rw [split, Nesting.afterAll?_append, stopsEarly.walked, Option.bind_some,
      Nesting.afterAll?_cons, stopsEarly.stops] at walked
    cases walked
  obtain rfl : position = other :=
    Nat.le_antisymm (Nat.le_of_not_lt (notBefore second first))
      (Nat.le_of_not_lt (notBefore first second))
  exact ⟨rfl, Option.some.inj (first.walked.symm.trans second.walked)⟩

/-- What parsing gives, by what stands where a stream stops. -/
inductive Verdict (stream : TokenStream) (position : Nat) :
    Nesting → Except ParseError Node → Prop where
  /-- A program ends at the end of input. -/
  | tree (program : Derivation .program) (derives : program.tokens = stream.firstTokens position)
      (atEnd : (stream.token position).kind = .eof)
      (sound : (stream.token (position + 1)).isFail = false) :
      Verdict stream position .top (.ok (program.tree (stream.token position).span))
  /-- A program ends at the end of input, and behind that stands a malformed token. -/
  | malformedBehind (atEnd : (stream.token position).kind = .eof)
      (malformed : (stream.token (position + 1)).isFail = true) :
      Verdict stream position .top (.error (.lexical (.ofToken (stream.token (position + 1)))))
  /-- The token is malformed. -/
  | malformed (reached : Nesting) (malformed : (stream.token position).isFail = true) :
      Verdict stream position reached (.error (.lexical (.ofToken (stream.token position))))
  /-- The token may not stand there. -/
  | unexpected (reached : Nesting) (sound : (stream.token position).isFail = false)
      (refused : reached.admits (stream.token position).kind = false) :
      Verdict stream position reached (.error (.unexpected (stream.token position).kind
        (reached.wanted (stream.token position).kind) (stream.token position).span.line
        (stream.token position).span.column))

/-- The end of input is not malformed. -/
theorem isFail_of_atEnd {token : Token} (atEnd : token.kind = .eof) : token.isFail = false := by
  rw [Token.isFail, atEnd]
  rfl

/-- A malformed token may stand nowhere. -/
theorem admits_of_isFail (nesting : Nesting) {token : Token} (malformed : token.isFail = true) :
    nesting.admits token.kind = false := by
  rw [beq_iff_eq.mp malformed]
  simp [Nesting.admits, Nesting.after?]

/-- What stands where a stream stops allows for one verdict only. -/
theorem Verdict.unique {stream : TokenStream} {position : Nat} {reached : Nesting}
    {result other : Except ParseError Node} (first : stream.Verdict position reached result)
    (second : stream.Verdict position reached other) : result = other := by
  cases first with
  | tree program derives atEnd sound =>
      have noFail := isFail_of_atEnd atEnd
      cases second with
      | tree otherProgram otherDerives =>
          rw [Derivation.eq_of_tokens (derives.trans otherDerives.symm)]
      | malformedBehind _ malformed => simp [malformed] at sound
      | malformed _ malformed => simp [malformed] at noFail
      | unexpected _ _ refused => simp [Nesting.admits, atEnd] at refused
  | malformedBehind atEnd malformed =>
      have noFail := isFail_of_atEnd atEnd
      cases second with
      | tree _ _ _ sound => simp [malformed] at sound
      | malformedBehind => rfl
      | malformed _ malformed => simp [malformed] at noFail
      | unexpected _ _ refused => simp [Nesting.admits, atEnd] at refused
  | malformed _ malformed =>
      cases second with
      | tree _ _ atEnd => simp [isFail_of_atEnd atEnd] at malformed
      | malformedBehind atEnd => simp [isFail_of_atEnd atEnd] at malformed
      | malformed => rfl
      | unexpected _ sound => simp [malformed] at sound
  | unexpected _ sound refused =>
      cases second with
      | tree _ _ atEnd => simp [Nesting.admits, atEnd] at refused
      | malformedBehind atEnd => simp [Nesting.admits, atEnd] at refused
      | malformed _ malformed => simp [malformed] at sound
      | unexpected => rfl

/-- A program that reaches the end of input stops there. -/
theorem stopsAt_of_reachesEnd {stream : TokenStream} {program : Derivation .program}
    {after : List Token} (reaches : ReachesEnd stream.tokens stream.finalSpan program after) :
    stream.StopsAt program.tokens.length .top ∧
      (stream.token program.tokens.length).kind = .eof := by
  have atEnd : (stream.token program.tokens.length).kind = .eof := by
    rw [token_length_of_split reaches.split]
    exact reaches.atEnd
  refine ⟨⟨?_, by rw [atEnd]; rfl⟩, atEnd⟩
  rw [firstTokens_of_split reaches.split]
  exact program.afterAll?_tokens false rfl []

/-- A stream stops at the first token that is refused. -/
theorem exists_verdict_of_failsWithin {stream : TokenStream} {error : ParseError}
    (fails : FailsWithin .top stream.tokens stream.finalSpan error) : ∃ position reached,
    stream.StopsAt position reached ∧ stream.Verdict position reached (.error error) := by
  obtain ⟨before, after, reached, split, walked, refused⟩ := fails
  rw [← token_length_of_split split] at refused
  have notAdmitted : reached.admits (stream.token before.length).kind = false := by
    rw [← Bool.not_eq_true]
    intro admitted
    rw [Nesting.refusal?_eq_none admitted] at refused
    cases refused
  have stops : reached.after? (stream.token before.length).kind = none := by
    simp only [Nesting.admits, Bool.or_eq_false_iff, Option.isSome_eq_false_iff,
      Option.isNone_iff_eq_none] at notAdmitted
    exact notAdmitted.1
  refine ⟨before.length, reached, ⟨by rwa [firstTokens_of_split split], stops⟩, ?_⟩
  rw [Nesting.refusal?] at refused
  split at refused
  · rename_i malformed
    cases refused
    exact .malformed reached malformed
  · rename_i sound
    rw [if_neg (by simp [notAdmitted])] at refused
    cases refused
    exact .unexpected reached (by simpa using sound) notAdmitted

/-- Every stream stops, and parsing gives a verdict on what stands there. -/
theorem exists_verdict (stream : TokenStream) : ∃ position reached,
    stream.StopsAt position reached ∧ stream.Verdict position reached stream.parse := by
  have outcome := stream.parse_outcome
  cases result : stream.parse with
  | ok tree =>
      rw [result] at outcome
      obtain ⟨program, after, reaches, sound, rfl⟩ := outcome
      obtain ⟨stops, atEnd⟩ := stopsAt_of_reachesEnd reaches
      rw [← token_succ_of_split reaches.split] at sound
      rw [← token_length_of_split reaches.split]
      exact ⟨_, _, stops, .tree program (firstTokens_of_split reaches.split).symm atEnd sound⟩
  | error error =>
      rw [result] at outcome
      rcases outcome with fails | ⟨program, after, reaches, malformed, rfl⟩
      · exact exists_verdict_of_failsWithin fails
      · obtain ⟨stops, atEnd⟩ := stopsAt_of_reachesEnd reaches
        rw [← token_succ_of_split reaches.split] at malformed ⊢
        exact ⟨_, _, stops, .malformedBehind atEnd malformed⟩

/-- Parsing gives the verdict on what stands where a stream stops. -/
theorem parse_eq_of_verdict {stream : TokenStream} {position : Nat} {reached : Nesting}
    {result : Except ParseError Node} (stops : stream.StopsAt position reached)
    (verdict : stream.Verdict position reached result) : stream.parse = result := by
  obtain ⟨other, otherReached, otherStops, parsed⟩ := stream.exists_verdict
  obtain ⟨rfl, rfl⟩ := stops.unique otherStops
  exact parsed.unique verdict

/-- Tokens that are reported alike stop the parser with the same error, or behind programs of
which it is known how they match. So a verdict on one stream is a verdict on the other one. -/
theorem Verdict.exists_matching {stream other : TokenStream} {position otherPosition : Nat}
    {reached : Nesting} {result : Except ParseError Node}
    {Matches : Derivation .program → Derivation .program → Prop}
    (verdict : stream.Verdict position reached result)
    (here : (stream.token position).IsReportedAs (other.token otherPosition))
    (behind : (stream.token position).kind = .eof →
      (stream.token (position + 1)).IsReportedAs (other.token (otherPosition + 1)))
    (programs : ∀ program : Derivation .program, program.tokens = stream.firstTokens position →
      ∃ otherProgram : Derivation .program,
        otherProgram.tokens = other.firstTokens otherPosition ∧ Matches program otherProgram) :
    (∃ error, result = .error error ∧ other.Verdict otherPosition reached (.error error)) ∨
      ∃ program otherProgram, result = .ok (program.tree (stream.token position).span) ∧
        other.Verdict otherPosition reached
          (.ok (otherProgram.tree (other.token otherPosition).span)) ∧
        Matches program otherProgram := by
  cases verdict with
  | tree program derives atEnd sound =>
      obtain ⟨otherProgram, otherDerives, isMatch⟩ := programs program derives
      rw [← (behind atEnd).isFail_eq] at sound
      rw [← here.kind] at atEnd
      exact .inr ⟨program, otherProgram, rfl, .tree otherProgram otherDerives atEnd sound, isMatch⟩
  | malformedBehind atEnd malformed =>
      have sameBehind := behind atEnd
      rw [← sameBehind.isFail_eq] at malformed
      rw [← here.kind] at atEnd
      exact .inl ⟨_, rfl, sameBehind.lexicalError_eq ▸ .malformedBehind atEnd malformed⟩
  | malformed _ malformed =>
      rw [← here.isFail_eq] at malformed
      exact .inl ⟨_, rfl, here.lexicalError_eq ▸ .malformed reached malformed⟩
  | unexpected _ sound refused =>
      rw [← here.isFail_eq] at sound
      rw [← here.kind] at refused
      refine .inl ⟨_, rfl, ?_⟩
      rw [← here.kind, ← here.line, ← here.column]
      exact .unexpected reached sound refused

/-- Streams that stop alike are parsed alike: with the same error, or as programs that match. -/
theorem StopsAt.parse_matching {stream other : TokenStream} {position otherPosition : Nat}
    {reached : Nesting} {Matches : Derivation .program → Derivation .program → Prop}
    (stops : stream.StopsAt position reached) (otherStops : other.StopsAt otherPosition reached)
    (here : (stream.token position).IsReportedAs (other.token otherPosition))
    (behind : (stream.token position).kind = .eof →
      (stream.token (position + 1)).IsReportedAs (other.token (otherPosition + 1)))
    (programs : ∀ program : Derivation .program, program.tokens = stream.firstTokens position →
      ∃ otherProgram : Derivation .program,
        otherProgram.tokens = other.firstTokens otherPosition ∧ Matches program otherProgram) :
    (∃ error, stream.parse = .error error ∧ other.parse = .error error) ∨
      ∃ program otherProgram, stream.parse = .ok (program.tree (stream.token position).span) ∧
        other.parse = .ok (otherProgram.tree (other.token otherPosition).span) ∧
        Matches program otherProgram := by
  obtain ⟨_, _, parsedStops, verdict⟩ := stream.exists_verdict
  obtain ⟨rfl, rfl⟩ := parsedStops.unique stops
  rcases verdict.exists_matching here behind programs with
    ⟨error, failed, otherVerdict⟩ | ⟨program, otherProgram, parsed, otherVerdict, isMatch⟩
  · exact .inl ⟨error, failed, parse_eq_of_verdict otherStops otherVerdict⟩
  · exact .inr ⟨program, otherProgram, parsed, parse_eq_of_verdict otherStops otherVerdict, isMatch⟩

/-- A position of a stream is the first one whose token no accepted stream goes on with. -/
def IsRefusedAt (stream : TokenStream) (position : Nat) : Prop :=
  StartsAccepted (stream.firstTokens position) ∧
    ¬StartsAccepted (stream.firstTokens (position + 1))

/-- Accepted streams start with whatever their first tokens start with. -/
theorem startsAccepted_of_append {tokens more : List Token}
    (starts : StartsAccepted (tokens ++ more)) : StartsAccepted tokens := by
  obtain ⟨further, finalSpan, tree, accepted⟩ := starts
  exact ⟨more ++ further, finalSpan, tree, by rwa [← List.append_assoc]⟩

/-- A stream that stops at a token that may not stand there is refused there. -/
theorem StopsAt.isRefusedAt {stream : TokenStream} {position : Nat} {reached : Nesting}
    (stops : stream.StopsAt position reached)
    (refused : reached.admits (stream.token position).kind = false) :
    stream.IsRefusedAt position := by
  refine ⟨startsAccepted_of_afterAll? stops.walked, ?_⟩
  rw [firstTokens_succ]
  exact not_startsAccepted_of_not_admits stops.walked refused

/-- A stream with a malformed token behind the end of a program is refused there. -/
theorem StopsAt.isRefusedAt_succ {stream : TokenStream} {position : Nat}
    (stops : stream.StopsAt position .top) (atEnd : (stream.token position).kind = .eof)
    (malformed : (stream.token (position + 1)).isFail = true) :
    stream.IsRefusedAt (position + 1) := by
  constructor
  · have ends : AreEnds [stream.token position] := fun token member => by
      rw [List.mem_singleton.mp member, atEnd]
    obtain ⟨tree, accepted⟩ := exists_parse_eq_ok ⟨0, 0, 1, 1⟩ stops.walked ends
    exact ⟨[], _, tree, by rwa [firstTokens_succ, List.append_nil]⟩
  · rintro ⟨further, finalSpan, tree, accepted⟩
    -- the other stream stops at the same token, with the same malformed one behind it
    let other : TokenStream := ⟨stream.firstTokens (position + 1 + 1) ++ further, finalSpan⟩
    have split : other.tokens = stream.firstTokens position ++
        stream.token position :: stream.token (position + 1) :: further := by
      simp only [other, firstTokens_succ, List.append_assoc, List.cons_append, List.nil_append]
    have first := token_length_of_split split
    have second := token_succ_of_split split
    have tokens := firstTokens_of_split split
    rw [length_firstTokens] at first second tokens
    have otherStops : other.StopsAt position .top :=
      ⟨by rw [tokens]; exact stops.walked, by rw [first]; exact stops.stops⟩
    have rejected := parse_eq_of_verdict otherStops
      (.malformedBehind (by rw [first]; exact atEnd) (by rw [second]; exact malformed))
    rw [show other.parse = .ok tree from accepted] at rejected
    cases rejected

end TokenStream

end BlockData
