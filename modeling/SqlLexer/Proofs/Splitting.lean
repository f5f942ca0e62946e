import SqlLexer.Proofs.Lexeme.Sequence
import SqlLexer.Proofs.Placement

/-!
# Sources cut between two tokens

A source that is cut where one of its tokens starts has the tokens of its two parts.  What stands
on one side of the cut has no influence on the tokens of the other side.
-/

namespace SqlLexer
namespace Lexeme

/-- The two parts of a row of lexemes are the lexemes of the texts they spell out. -/
theorem IsLexed.lexemes_parts
    {first second : List Lexeme}
    (lexed : IsLexed (first ++ second)) :
    lexemes (concatText first) = first ∧ lexemes (concatText second) = second :=
  ⟨lexed.of_append_left.lexemes_concatText, lexed.of_append_right.lexemes_concatText⟩

end Lexeme

/-- A token of a text starts where the text can be cut without a change to its lexemes. -/
theorem exists_split_of_mem_tokensOf
    {source : Text}
    {token : Token}
    (member : token ∈ tokensOf source) :
    ∃ before after, source = before ++ after ∧
      token.span.start = Text.byteLength before ∧
      lexemes source = lexemes before ++ lexemes after := by
  obtain ⟨first, second, split, start, _⟩ := exists_split_of_mem_placeLexemes member
  have lexed := Lexeme.isLexed_lexemes source
  rw [split] at lexed
  obtain ⟨front, back⟩ := lexed.lexemes_parts
  refine ⟨Lexeme.concatText first, Lexeme.concatText second, ?_, ?_, ?_⟩
  · rw [← Lexeme.concatText_append, ← split, concatText_lexemes]
  · rw [start, Nat.zero_add]
  · rw [split, front, back]

/-- Where the texts before and after the start of a token are both accepted, their tokens are the
tokens of the whole source. -/
theorem contents_tokenize_split
    {source : Text}
    {tokens before after : List Token}
    {token : Token}
    (whole : tokenize source = .ok tokens)
    (member : token ∈ tokens)
    (front : tokenize (source.slice 0 token.span.start) = .ok before)
    (back : tokenize (source.slice token.span.start source.byteLength) = .ok after) :
    Token.contents tokens = Token.contents before ++ Token.contents after := by
  obtain ⟨_, rfl⟩ := (tokenize_eq_ok_iff _ _).mp whole
  obtain ⟨_, rfl⟩ := (tokenize_eq_ok_iff _ _).mp front
  obtain ⟨_, rfl⟩ := (tokenize_eq_ok_iff _ _).mp back
  obtain ⟨first, second, rfl, start, split⟩ := exists_split_of_mem_tokensOf member
  have frontText : (first ++ second).slice 0 token.span.start = first := by
    rw [start]
    simpa using Text.slice_append [] first second
  have backText :
      (first ++ second).slice token.span.start (Text.byteLength (first ++ second)) = second := by
    rw [start, Text.byteLength_append]
    simpa using Text.slice_append first second []
  rw [frontText, backText, contents_tokensOf, contents_tokensOf, contents_tokensOf, split]

/-- An operator that is short because a comment follows it, cut off from the comment. -/
theorem contents_tokenize_split_operatorBeforeComment :
    ∃ tokens before after : List Token, ∃ token ∈ tokens,
      tokenize "1||/**/$".toList = .ok tokens ∧
      token.span.start = 3 ∧
      tokenize (Text.slice "1||/**/$".toList 0 3) = .ok before ∧
      tokenize (Text.slice "1||/**/$".toList 3 8) = .ok after ∧
      Token.contents tokens = Token.contents before ++ Token.contents after := by
  have member : ⟨.blockComment, ⟨3, 4⟩, ⟨1, 4⟩, "/**/".toList⟩ ∈ tokensOf "1||/**/$".toList := by
    decide +kernel
  have whole : tokenize "1||/**/$".toList = .ok (tokensOf "1||/**/$".toList) := rfl
  have front : tokenize (Text.slice "1||/**/$".toList 0 3) = .ok (tokensOf "1||".toList) := rfl
  have back : tokenize (Text.slice "1||/**/$".toList 3 8) = .ok (tokensOf "/**/$".toList) := rfl
  exact ⟨_, _, _, _, member, whole, rfl, front, back,
    contents_tokenize_split whole member front back⟩

end SqlLexer
