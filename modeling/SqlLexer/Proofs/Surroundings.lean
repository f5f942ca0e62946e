import SqlLexer.Proofs.Lexeme.Sequence
import SqlLexer.Proofs.Placement

/-!
# Tokens and the text around them

A source is the text before a token, the text of the token and the text behind it.  What stands
before a token decides its place, and what stands behind it decides where it ends.
-/

namespace SqlLexer

open Lexeme (First IsLexed)

/-- A token that lies between two texts: it stands where the first one ends, and is the first
lexeme from there on or the end mark. -/
structure Token.IsBetween (token : Token) (before after : Text) : Prop where
  start : token.span.start = Text.byteLength before
  length : token.span.length = Text.byteLength token.text
  location : token.location = Location.start.walk before
  first : First (token.text ++ after) token.lexeme ∨ token.lexeme = ⟨.endOfFile, []⟩ ∧ after = []

/-- What lies behind the last byte of a token is the text behind it. -/
theorem Token.IsBetween.dropBytes_stop
    {token : Token}
    {before after : Text}
    (between : token.IsBetween before after) :
    Text.dropBytes token.span.stop (before ++ (token.text ++ after)) = after := by
  rw [Span.stop, between.start, between.length, ← Text.byteLength_append, ← List.append_assoc,
    Text.dropBytes_append]

/-- Every token of a text lies between the text before it and the text behind it. -/
theorem exists_isBetween_of_mem_tokensOf
    {source : Text}
    {token : Token}
    (member : token ∈ tokensOf source) :
    ∃ before after, source = before ++ (token.text ++ after) ∧ token.IsBetween before after := by
  obtain ⟨pieces, others, split, start, length, location, isPiece⟩ :=
    exists_split_of_mem_placeLexemes member
  have text := concatText_lexemes source
  have lexed := Lexeme.isLexed_lexemes source
  rw [split] at text lexed
  rw [Lexeme.concatText_append] at text
  rw [Nat.zero_add] at start
  cases others with
  | nil =>
      have isEmpty : token.text = [] := congrArg Lexeme.text isPiece
      refine ⟨Lexeme.concatText pieces, [], ?_, start, length, location, .inr ⟨isPiece, rfl⟩⟩
      rw [← text, isEmpty]
      rfl
  | cons piece rest =>
      have isLexeme : token.lexeme = piece := isPiece
      subst isLexeme
      have first := ((Lexeme.isLexed_cons_iff _ _).mp lexed.of_append_right).1
      exact ⟨Lexeme.concatText pieces, Lexeme.concatText rest, text.symm, start, length, location,
        .inl first⟩

end SqlLexer
