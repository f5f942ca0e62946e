import SqlLexer.TokenStream.Basic

/-!
# Skipping tokens

Readers pass over trivia, and over optional keywords with the trivia around them.  Neither ever
moves back.
-/

namespace SqlLexer
namespace TokenStream

/-- Moves past whitespace and comments. -/
def skipTrivia (stream : TokenStream) : TokenStream :=
  if stream.current.kind.isTrivia then skipTrivia stream.advance
  else stream
termination_by stream.tokensLeft
decreasing_by
  rename_i trivia
  have positive : 0 < stream.tokensLeft := by
    apply tokensLeft_pos
    intro isEnd
    simp [isEnd, Kind.isTrivia] at trivia
  rw [tokensLeft_advance]
  omega

theorem tokensLeft_skipTrivia_le (stream : TokenStream) :
    stream.skipTrivia.tokensLeft ≤ stream.tokensLeft := by
  fun_induction skipTrivia stream with
  | case1 stream trivia inductionHypothesis =>
      rw [tokensLeft_advance] at inductionHypothesis
      omega
  | case2 stream significant => exact Nat.le_refl _

/-- Moves past any number of the given keywords and the trivia before, between and after
them. -/
def skipKeywords (words : List Text) (stream : TokenStream) : TokenStream :=
  if words.any stream.skipTrivia.checkKeyword then
    skipKeywords words stream.skipTrivia.advance
  else stream.skipTrivia
termination_by stream.tokensLeft
decreasing_by
  rename_i found
  obtain ⟨word, _, isWord⟩ := List.any_eq_true.mp found
  have positive := tokensLeft_pos_of_checkKeyword isWord
  have ahead := tokensLeft_skipTrivia_le stream
  rw [tokensLeft_advance]
  omega

end TokenStream
end SqlLexer
