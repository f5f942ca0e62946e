import Mathlib.Data.List.Basic
import SqlLexer.Proofs.Lexeme.First

/-!
# Where comments open

A comment opener is two characters next to each other.  A text without one, put in front of
another, gives rise to an opener at most where the two meet.
-/

namespace SqlLexer
namespace Lexeme

/-- Whether two characters next to each other open a comment. -/
def OpensComment (c d : Char) : Prop :=
  c = '-' ∧ d = '-' ∨ c = '/' ∧ d = '*'

theorem startsComment_cons (c : Char) (rest : Text) :
    startsComment (c :: rest) ↔ ∃ d ∈ rest.head?, OpensComment c d := by
  rw [startsComment, Bool.or_eq_true, lineOpener_isPrefixOf_iff, blockOpener_isPrefixOf_iff]
  cases rest <;> simp [OpensComment]

/-- Only the first two characters decide whether a comment opens. -/
theorem startsComment_cons_congr
    {c : Char}
    {first second : Text}
    (sameHead : first.head? = second.head?) :
    startsComment (c :: first) = startsComment (c :: second) := by
  rw [Bool.eq_iff_iff, startsComment_cons, startsComment_cons, sameHead]

@[simp] theorem hasCommentOpener_nil : hasCommentOpener [] = false :=
  rfl

theorem hasCommentOpener_cons (c : Char) (rest : Text) :
    hasCommentOpener (c :: rest) = (startsComment (c :: rest) || hasCommentOpener rest) :=
  rfl

/-- One character does not open a comment. -/
theorem hasCommentOpener_take_one (text : Text) : hasCommentOpener (text.take 1) = false := by
  cases text with
  | nil => rfl
  | cons c rest =>
      rw [List.take_succ_cons, List.take_zero, hasCommentOpener_cons, hasCommentOpener_nil,
        Bool.or_false, Bool.eq_false_iff, Ne, startsComment_cons]
      simp

/-- An opener in two texts put together lies in the second text or needs no more of it than
one character. -/
theorem hasCommentOpener_append (first second : Text) :
    hasCommentOpener (first ++ second) =
      (hasCommentOpener (first ++ second.take 1) || hasCommentOpener second) := by
  induction first with
  | nil => simp [hasCommentOpener_take_one]
  | cons c rest inductionHypothesis =>
      have sameHead : (rest ++ second).head? = (rest ++ second.take 1).head? := by
        cases rest <;> cases second <;> rfl
      rw [List.cons_append, List.cons_append, hasCommentOpener_cons, hasCommentOpener_cons,
        startsComment_cons_congr sameHead, inductionHypothesis, Bool.or_assoc]

/-- A text without an opener gets none from the next character if no opener lies across its
end. -/
theorem hasCommentOpener_append_take
    {text after : Text}
    (closed : hasCommentOpener text = false)
    (apart : ∀ c ∈ text.getLast?, ∀ d ∈ after.head?, ¬OpensComment c d) :
    hasCommentOpener (text ++ after.take 1) = false := by
  induction text with
  | nil => exact hasCommentOpener_take_one after
  | cons c rest inductionHypothesis =>
      rw [hasCommentOpener_cons, Bool.or_eq_false_iff] at closed
      cases rest with
      | nil =>
          have sameHead : ([] ++ after.take 1).head? = after.head? := by
            cases after <;> rfl
          rw [List.cons_append, hasCommentOpener_cons, Bool.or_eq_false_iff, Bool.eq_false_iff,
            Ne, startsComment_cons, sameHead]
          refine ⟨?_, hasCommentOpener_take_one after⟩
          rintro ⟨d, isNext, opens⟩
          exact apart c rfl d isNext opens
      | cons d rest =>
          have tail := inductionHypothesis closed.2 (by simpa using apart)
          rw [List.cons_append, hasCommentOpener_cons, Bool.or_eq_false_iff]
          refine ⟨?_, tail⟩
          rw [← closed.1]
          exact startsComment_cons_congr rfl

/-- What follows a text removes no opener from it. -/
theorem hasCommentOpener_append_of_left
    {text : Text}
    (opens : hasCommentOpener text)
    (after : Text) :
    hasCommentOpener (text ++ after) := by
  induction text with
  | nil => simp at opens
  | cons c rest inductionHypothesis =>
      rw [hasCommentOpener_cons, Bool.or_eq_true] at opens
      rw [List.cons_append, hasCommentOpener_cons, Bool.or_eq_true]
      rcases opens with here | later
      · refine .inl ?_
        obtain ⟨d, isNext, opens⟩ := (startsComment_cons c rest).mp here
        refine (startsComment_cons c _).mpr ⟨d, ?_, opens⟩
        exact List.mem_head?_append_of_mem_head? isNext
      · exact .inr (inductionHypothesis later)

end Lexeme
end SqlLexer
