import SqlLexer.TokenStream.Forward

/-!
# The tokens ahead

A reader of a stream that passes over trivia sees the significant tokens from the position on, as
far as the first end mark.  Each move of the stream is described by what it does to them.
-/

namespace SqlLexer
namespace TokenStream

/-- The significant tokens from the position up to the first end mark. -/
def ahead (stream : TokenStream) : List Token :=
  (stream.remaining.takeWhile fun token => token.kind ≠ .endOfFile).filter
    fun token => token.kind.isSignificant

/-- The current token is the first one that remains, or else the end mark. -/
theorem remaining_cases (stream : TokenStream) :
    stream.remaining = [] ∧ stream.current = stream.endMark ∨
      stream.remaining = stream.current :: stream.advance.remaining := by
  by_cases inside : stream.position < stream.tokens.size
  · refine .inr ?_
    have isCurrent : stream.current = stream.tokens[stream.position] := by
      simp [current, peek, inside]
    have inList : stream.position < stream.tokens.toList.length := by
      simpa using inside
    rw [isCurrent, remaining, advance, if_pos inside, remaining,
      List.drop_eq_getElem_cons inList, Array.getElem_toList]
  · refine .inl ⟨?_, ?_⟩
    · rw [remaining, List.drop_eq_nil_iff]
      simpa using inside
    · rw [current, peek, Nat.add_zero, Array.getElem?_eq_none (Nat.le_of_not_lt inside)]
      rfl

theorem ahead_of_endOfFile
    {stream : TokenStream}
    (isEnd : stream.current.kind = .endOfFile) :
    stream.ahead = [] := by
  rcases stream.remaining_cases with ⟨empty, _⟩ | split
  · rw [ahead, empty]
    rfl
  · rw [ahead, split, List.takeWhile_cons_of_neg (by simp [isEnd])]
    rfl

/-- Trivia are not among the tokens ahead, so a step over them leaves those as they are. -/
theorem ahead_advance_of_isTrivia
    {stream : TokenStream}
    (trivia : stream.current.kind.isTrivia) :
    stream.advance.ahead = stream.ahead := by
  have notEnd : stream.current.kind ≠ .endOfFile := by
    intro isEnd
    rw [isEnd] at trivia
    contradiction
  rcases stream.remaining_cases with ⟨_, atEnd⟩ | split
  · rw [atEnd, stream.endMark_kind] at notEnd
    contradiction
  · rw [ahead, ahead, split, List.takeWhile_cons_of_pos (by simp [notEnd]),
      List.filter_cons_of_neg (by simp [Kind.isSignificant, trivia])]

/-- A significant token that is no end mark is the first of the tokens ahead. -/
theorem ahead_of_isSignificant
    {stream : TokenStream}
    (significant : stream.current.kind.isSignificant)
    (notEnd : stream.current.kind ≠ .endOfFile) :
    stream.ahead = stream.current :: stream.advance.ahead := by
  rcases stream.remaining_cases with ⟨_, atEnd⟩ | split
  · rw [atEnd, stream.endMark_kind] at notEnd
    contradiction
  · rw [ahead, split, List.takeWhile_cons_of_pos (by simp [notEnd]), List.filter_cons_of_pos]
    · rfl
    · exact significant

@[simp] theorem ahead_skipTrivia (stream : TokenStream) :
    stream.skipTrivia.ahead = stream.ahead := by
  fun_induction skipTrivia stream with
  | case1 stream trivia inductionHypothesis =>
      rw [inductionHypothesis, ahead_advance_of_isTrivia trivia]
  | case2 stream significant => rfl

/-- Going back from a stream with the same tokens shows what was ahead before. -/
theorem ahead_seek
    {stream after : TokenStream}
    (sameTokens : after.tokens = stream.tokens) :
    (after.seek stream.position).ahead = stream.ahead := by
  have sameRemaining : (after.seek stream.position).remaining = stream.remaining := by
    rw [remaining, remaining, seek, sameTokens]
    rcases Nat.le_total stream.position stream.tokens.size with inside | past
    · rw [Nat.min_eq_left inside]
    · rw [Nat.min_eq_right past, List.drop_of_length_le (by simp),
        List.drop_of_length_le (by simpa using past)]
  rw [ahead, ahead, sameRemaining]

/-! ## Streams at a significant token -/

/-- Streams whose position is not at trivia. -/
def IsSettled (stream : TokenStream) : Prop :=
  stream.current.kind.isTrivia = false

theorem isSettled_skipTrivia (stream : TokenStream) : stream.skipTrivia.IsSettled := by
  fun_induction skipTrivia stream with
  | case1 stream trivia inductionHypothesis => exact inductionHypothesis
  | case2 stream significant => exact Bool.eq_false_iff.mpr significant

/-- A settled stream shows its current token first, unless that is an end mark. -/
theorem IsSettled.ahead_cases
    {stream : TokenStream}
    (settled : stream.IsSettled) :
    stream.current.kind = .endOfFile ∧ stream.ahead = [] ∨
      stream.current.kind ≠ .endOfFile ∧
        stream.ahead = stream.current :: stream.advance.ahead := by
  by_cases isEnd : stream.current.kind = .endOfFile
  · exact .inl ⟨isEnd, ahead_of_endOfFile isEnd⟩
  · have significant : stream.current.kind.isSignificant := by
      rw [Kind.isSignificant, settled]
      rfl
    exact .inr ⟨isEnd, ahead_of_isSignificant significant isEnd⟩

theorem not_checkKeyword_of_endOfFile
    {stream : TokenStream}
    (isEnd : stream.current.kind = .endOfFile)
    (word : Text) :
    stream.checkKeyword word = false := by
  rw [checkKeyword, Token.isKeywordText, isEnd]
  rfl

theorem isSettled_skipKeywords (words : List Text) (stream : TokenStream) :
    (stream.skipKeywords words).IsSettled := by
  fun_induction skipKeywords words stream with
  | case1 stream found inductionHypothesis => exact inductionHypothesis
  | case2 stream missing => exact isSettled_skipTrivia stream

/-- Keywords are dropped from the tokens ahead, whatever trivia stand between them. -/
theorem ahead_skipKeywords (words : List Text) (stream : TokenStream) :
    (stream.skipKeywords words).ahead =
      stream.ahead.dropWhile fun token => words.any token.isKeywordText := by
  fun_induction skipKeywords words stream with
  | case1 stream found inductionHypothesis =>
      have settled := isSettled_skipTrivia stream
      rw [inductionHypothesis, ← ahead_skipTrivia stream]
      rcases settled.ahead_cases with ⟨isEnd, _⟩ | ⟨_, split⟩
      · obtain ⟨word, _, isWord⟩ := List.any_eq_true.mp found
        rw [not_checkKeyword_of_endOfFile isEnd] at isWord
        contradiction
      · rw [split, List.dropWhile_cons_of_pos]
        exact found
  | case2 stream missing =>
      have settled := isSettled_skipTrivia stream
      rw [← ahead_skipTrivia stream]
      rcases settled.ahead_cases with ⟨_, empty⟩ | ⟨_, split⟩
      · rw [empty]
        rfl
      · rw [split, List.dropWhile_cons_of_neg]
        exact missing

end TokenStream
end SqlLexer
