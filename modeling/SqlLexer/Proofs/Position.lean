import Mathlib.Data.List.DropRight
import SqlLexer.Proofs.Surroundings

/-!
# Where tokens stand

The line and the column of a token are carried along from one lexeme to the next.  They are what
a count over the whole text in front of the token gives: the line feeds in it, and the characters
behind the last line feed.
-/

namespace SqlLexer

/-- From the start, the line counts the line feeds and the column the characters behind the last
of them. -/
theorem Location.walk_start (text : Text) :
    Location.start.walk text =
      ⟨text.count '\n' + 1, (text.rtakeWhile fun c => c ≠ '\n').length + 1⟩ := by
  induction text using List.reverseRecOn with
  | nil => rfl
  | append_singleton text c inductionHypothesis =>
      rw [walk_append, inductionHypothesis, walk_cons, walk_nil, step]
      by_cases isFeed : c = '\n'
      · rw [if_pos isFeed, List.rtakeWhile_concat_neg _ _ _ (by simp [isFeed])]
        simp [isFeed]
      · rw [if_neg isFeed, List.rtakeWhile_concat_pos _ _ _ (by simp [isFeed])]
        simp [List.count_append, isFeed]

/-- Each token of an accepted source, the end mark included, stands at the line and the column
that a walk over the text in front of it reaches from the first line and column. -/
theorem tokenize_location
    {source : Text}
    {tokens : List Token}
    (accepted : tokenize source = .ok tokens) :
    ∀ token ∈ tokens, ∃ before after,
      source = before ++ after ∧
      token.span.start = Text.byteLength before ∧
      token.location = Location.start.walk before ∧
      token.location =
        ⟨before.count '\n' + 1, (before.rtakeWhile fun c => c ≠ '\n').length + 1⟩ := by
  obtain ⟨_, rfl⟩ := (tokenize_eq_ok_iff _ _).mp accepted
  intro token member
  obtain ⟨before, after, split, between⟩ := exists_isBetween_of_mem_tokensOf member
  refine ⟨before, token.text ++ after, split, between.start, between.location, ?_⟩
  rw [between.location, Location.walk_start]

/-- A word behind a lone dollar, a string and a nested comment over several lines and a
dollar-quoted body with a letter of two bytes. -/
theorem tokenize_location_afterDollarBody :
    ∃ tokens : List Token, ∃ token ∈ tokens,
      tokenize "$ '\r\n''/*'\t/*\n/*--*/*/$é$\n'$é$ a".toList = .ok tokens ∧
      token.location = ⟨4, 6⟩ ∧
      ∃ before after,
        "$ '\r\n''/*'\t/*\n/*--*/*/$é$\n'$é$ a".toList = before ++ after ∧
        token.span.start = Text.byteLength before ∧
        token.location = Location.start.walk before ∧
        token.location =
          ⟨before.count '\n' + 1, (before.rtakeWhile fun c => c ≠ '\n').length + 1⟩ := by
  have member : ⟨.identifier, ⟨33, 1⟩, ⟨4, 6⟩, "a".toList⟩ ∈
      tokensOf "$ '\r\n''/*'\t/*\n/*--*/*/$é$\n'$é$ a".toList := by
    decide +kernel
  have accepted : tokenize "$ '\r\n''/*'\t/*\n/*--*/*/$é$\n'$é$ a".toList =
      .ok (tokensOf "$ '\r\n''/*'\t/*\n/*--*/*/$é$\n'$é$ a".toList) := rfl
  exact ⟨_, _, member, accepted, rfl, tokenize_location accepted _ member⟩

end SqlLexer
