import SqlLexer.Proofs.Lexeme.Cut
import SqlLexer.Proofs.Lexeme.Ending

/-!
# Sequences of lexemes

Lexemes in a row are read back from the text they spell out when each of them is the first lexeme
of what it and those behind it spell out.  The beginning of such a row is read back as well when
the text behind it is missing or replaced, and so is its end when the text in front is missing.
-/

namespace SqlLexer
namespace Lexeme

/-- Rows of lexemes in which each is the first lexeme of the text from there on. -/
inductive IsLexed : List Lexeme → Prop
  | nil : IsLexed []
  | cons {piece : Lexeme} {rest : List Lexeme}
      (first : First (piece.text ++ concatText rest) piece)
      (lexed : IsLexed rest) :
      IsLexed (piece :: rest)

theorem isLexed_cons_iff (piece : Lexeme) (rest : List Lexeme) :
    IsLexed (piece :: rest) ↔ First (piece.text ++ concatText rest) piece ∧ IsLexed rest := by
  constructor
  · intro lexed
    cases lexed with
    | cons first lexed => exact ⟨first, lexed⟩
  · rintro ⟨first, lexed⟩
    exact .cons first lexed

theorem First.exists_eq_cons
    {text : Text}
    {piece : Lexeme}
    (first : First text piece) :
    ∃ c rest, text = c :: rest := by
  cases first <;> exact ⟨_, _, rfl⟩

/-- A first lexeme is split off, and the others are those of the text behind it. -/
theorem First.lexemes_eq
    {text after : Text}
    {piece : Lexeme}
    (first : First text piece)
    (split : piece.text ++ after = text) :
    lexemes text = piece :: lexemes after := by
  have nextEq := first.next_eq
  obtain ⟨c, rest, rfl⟩ := first.exists_eq_cons
  rw [lexemes_cons, nextEq, ← split, List.drop_left]

/-- The first lexeme of a text is not empty. -/
theorem First.text_ne_nil
    {text : Text}
    {piece : Lexeme}
    (first : First text piece) :
    piece.text ≠ [] := by
  obtain ⟨c, rest, rfl⟩ := first.exists_eq_cons
  rw [← first.next_eq]
  exact next_text_ne_nil c rest

/-- The lexemes of a text are found again in the text that they spell. -/
theorem isLexed_lexemes (text : Text) : IsLexed (lexemes text) := by
  fun_induction lexemes text with
  | case1 => exact .nil
  | case2 c rest lexeme inductionHypothesis =>
      have first := first_next c rest
      obtain ⟨after, split⟩ := first.text_initial
      change lexeme.text ++ after = c :: rest at split
      change First (c :: rest) lexeme at first
      rw [← split, List.drop_left] at inductionHypothesis ⊢
      rw [← split] at first
      refine .cons ?_ inductionHypothesis
      rwa [concatText_lexemes]

namespace IsLexed

/-- Lexemes in a row are the lexemes of the text they spell out. -/
theorem lexemes_concatText
    {pieces : List Lexeme}
    (lexed : IsLexed pieces) :
    lexemes (concatText pieces) = pieces := by
  induction lexed with
  | nil => exact lexemes_nil
  | cons first _ inductionHypothesis =>
      rw [concatText_cons, first.lexemes_eq rfl, inductionHypothesis]

theorem of_append_right
    {first second : List Lexeme}
    (lexed : IsLexed (first ++ second)) :
    IsLexed second := by
  induction first with
  | nil => exact lexed
  | cons piece rest inductionHypothesis =>
      exact inductionHypothesis ((isLexed_cons_iff _ _).mp lexed).2

/-- No comment opens where the text of a row is cut between two lexemes, unless one opens before
the cut already. -/
theorem apart
    {first second : List Lexeme}
    (lexed : IsLexed (first ++ second))
    (closed : hasCommentOpener (concatText first) = false) :
    hasCommentOpener (concatText first ++ (concatText second).take 1) = false := by
  induction first with
  | nil => exact hasCommentOpener_take_one _
  | cons piece rest inductionHypothesis =>
      rw [List.cons_append, isLexed_cons_iff, concatText_append] at lexed
      obtain ⟨isFirst, lexed⟩ := lexed
      rw [concatText_cons, hasCommentOpener_append, Bool.or_eq_false_iff] at closed
      have closedPiece : hasCommentOpener piece.text = false := by
        rw [Bool.eq_false_iff]
        intro opens
        rw [hasCommentOpener_append_of_left opens] at closed
        exact absurd closed.1 (by decide)
      have oneAhead : (concatText rest ++ (concatText second).take 1).take 1 =
          (concatText rest ++ concatText second).take 1 := by
        cases concatText rest <;> simp [List.take_take]
      rw [concatText_cons, List.append_assoc, hasCommentOpener_append, oneAhead,
        isFirst.apart closedPiece, inductionHypothesis lexed closed.2]
      rfl

end IsLexed

/-- The first lexeme stays the first when the lexemes from some later place on are replaced by
the text behind a cut.  Trivia reach as far as they can, so nothing may take the place of what
follows them. -/
theorem First.replace
    {piece : Lexeme}
    {between after : List Lexeme}
    {other : Text}
    (isFirst : First (piece.text ++ concatText (between ++ after)) piece)
    (lexed : IsLexed (between ++ after))
    (cut : Cut (concatText after) other)
    (trivia : piece.kind.isTrivia → other = []) :
    First (piece.text ++ (concatText between ++ other)) piece := by
  have row : IsLexed ((piece :: between) ++ after) := .cons isFirst lexed
  have apart := row.apart
  obtain ⟨c, tail, split⟩ := List.exists_cons_of_ne_nil isFirst.text_ne_nil
  rw [concatText_append, split, List.cons_append, ← List.append_assoc] at isFirst
  rw [concatText_cons, split, List.cons_append] at apart
  have fits : piece.text.length ≤ (c :: (tail ++ concatText between)).length := by
    rw [split, List.length_cons, List.length_cons, List.length_append]
    omega
  rw [split, List.cons_append, ← List.append_assoc]
  exact isFirst.cut fits cut apart trivia

/-- The beginning of a row is a row by itself. -/
theorem IsLexed.of_append_left
    {first second : List Lexeme}
    (lexed : IsLexed (first ++ second)) :
    IsLexed first := by
  induction first with
  | nil => exact .nil
  | cons piece rest inductionHypothesis =>
      rw [List.cons_append, isLexed_cons_iff] at lexed
      obtain ⟨isFirst, lexed⟩ := lexed
      have alone := isFirst.replace lexed ⟨by simp, fun _ => rfl⟩ fun _ => rfl
      rw [List.append_nil] at alone
      exact .cons alone (inductionHypothesis lexed)

end Lexeme
end SqlLexer
