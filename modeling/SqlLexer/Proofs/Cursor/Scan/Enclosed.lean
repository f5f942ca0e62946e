import SqlLexer.Proofs.Cursor.Stepwise
import SqlLexer.Proofs.Lexeme.Nesting

/-!
# Scanning to a closing mark

Quoted lexemes and block comments are consumed character by character through the mark that closes
them.  What is consumed is what is read from the whole text, since quotes pair off and comments nest
in the same way from either point of view.
-/

namespace SqlLexer
namespace Cursor

open Lexeme

variable {cursor : Cursor}

/-! ## Quotes -/

/-- Consumes a character, or a pair of quotes, or ends behind a quote that no other one follows. -/
def quoteStep (quote : Char) (cursor : Cursor) : Cursor ⊕ Cursor :=
  match cursor.advance with
  | (none, stopped) => .inl stopped
  | (some c, moved) =>
      if c = quote then
        if moved.current = quote then .inr moved.advance.2 else .inl moved
      else .inr moved

/-- Consumes characters through a quote that no other one follows, taking quotes in pairs. -/
def goOnThroughQuote (quote : Char) : Cursor → Part Cursor :=
  loop (quoteStep quote)

/-- A quoted text is consumed through its closing mark or to the end of the source. -/
theorem goOnThroughQuote_eq
    {quote : Char}
    (notNull : quote ≠ '\x00')
    (cursor : Cursor) :
    cursor.goOnThroughQuote quote = .some (cursor.pass (quotedBody quote cursor.remaining)) := by
  generalize ahead : cursor.remaining = text
  fun_induction quotedBody quote text generalizing cursor with
  | case1 =>
      refine loop_of_inl ?_
      rw [quoteStep, advance_of_eq_nil ahead]
      rfl
  | case2 =>
      have noneBehind := current_of_eq_nil (remaining_pass_cons ahead)
      refine loop_of_inl ?_
      rw [quoteStep, advance_of_eq_cons ahead]
      simp [noneBehind, notNull.symm]
  | case3 rest inductionHypothesis =>
      have second := remaining_pass_cons ahead
      have step : quoteStep quote cursor = .inr (cursor.pass [quote, quote]) := by
        rw [quoteStep, advance_of_eq_cons ahead]
        simp [current_of_eq_cons second, advance_of_eq_cons second, pass_pass_cons]
      exact loop_eq_pass step (inductionHypothesis _ (remaining_pass ahead))
  | case4 d rest different =>
      have second := current_of_eq_cons (remaining_pass_cons ahead)
      refine loop_of_inl ?_
      rw [quoteStep, advance_of_eq_cons ahead]
      simp [second, different]
  | case5 c rest different inductionHypothesis =>
      have step : quoteStep quote cursor = .inr (cursor.pass [c]) := by
        rw [quoteStep, advance_of_eq_cons ahead]
        simp [different]
      exact loop_eq_pass step (inductionHypothesis _ (remaining_pass ahead))

/-- A quoted lexeme is consumed with its first character and everything through the closing
quote. -/
theorem goOn_quoted
    {quote : Char}
    (notNull : quote ≠ '\x00')
    (cursor : Cursor) :
    cursor.advance.2.goOnThroughQuote quote =
      .some (cursor.pass (quoted quote cursor.remaining)) := by
  rw [goOnThroughQuote_eq notNull, advance_snd, remaining_advanceBy, advanceBy, ← pass_append]
  rfl

/-! ## Block comments -/

/-- Passes a mark of comments or another character, within a comment in which a number of others are
open, or ends there. -/
def commentStep (depth : Nat) (cursor : Cursor) : Cursor ⊕ (Nat × Cursor) :=
  if cursor.isAtEnd then .inl cursor
  else if cursor.startsWith blockOpener then .inr (depth + 1, cursor.advanceEach 2)
  else if cursor.startsWith blockCloser then
    if depth = 0 then .inl (cursor.advanceEach 2) else .inr (depth - 1, cursor.advanceEach 2)
  else .inr (depth, cursor.advance.2)

/-- Consumes characters through the closer of a comment in which a number of others are open. -/
def goOnThroughComment (cursor : Cursor) (depth : Nat) : Part Cursor :=
  loop (fun state => commentStep state.1 state.2) (depth, cursor)

theorem commentStep_of_isAtEnd {depth : Nat} (atEnd : cursor.isAtEnd) :
    commentStep depth cursor = .inl cursor :=
  if_pos atEnd

/-- Where two characters are ahead, they tell what the step is. -/
theorem commentStep_of_eq_cons_cons
    {c d : Char}
    {rest : Text}
    (ahead : cursor.remaining = c :: d :: rest)
    (depth : Nat) :
    commentStep depth cursor =
      if c = '/' ∧ d = '*' then .inr (depth + 1, cursor.pass [c, d])
      else if c = '*' ∧ d = '/' then
        if depth = 0 then .inl (cursor.pass [c, d]) else .inr (depth - 1, cursor.pass [c, d])
      else .inr (depth, cursor.pass [c]) := by
  have opens : cursor.startsWith blockOpener ↔ c = '/' ∧ d = '*' := by
    rw [startsWith, ahead, List.isPrefixOf_iff_prefix, blockOpener_prefix_iff]
  have closes : cursor.startsWith blockCloser ↔ c = '*' ∧ d = '/' := by
    rw [startsWith, ahead, List.isPrefixOf_iff_prefix, blockCloser_prefix_iff]
  simp only [commentStep, isAtEnd_of_eq_cons ahead, opens, closes, advanceEach_two ahead,
    advance_of_eq_cons ahead, Bool.false_eq_true, if_false]

/-- A comment goes on behind a text that a step passes over. -/
theorem goOnThroughComment_eq_pass
    {depth next : Nat}
    {taken rest : Text}
    (goesOn : commentStep depth cursor = .inr (next, cursor.pass taken))
    (behind : (cursor.pass taken).goOnThroughComment next =
      .some ((cursor.pass taken).pass rest)) :
    cursor.goOnThroughComment depth = .some (cursor.pass (taken ++ rest)) := by
  rw [pass_append, ← behind]
  exact loop_of_inr goesOn

/-- A comment is consumed through its last closer or to the end of the source. -/
theorem goOnThroughComment_eq (depth : Nat) (steady : cursor.IsSteady) :
    cursor.goOnThroughComment depth =
      .some (cursor.pass (blockBody depth cursor.remaining)) := by
  generalize ahead : cursor.remaining = text
  fun_induction blockBody depth text generalizing cursor with
  | case1 depth => exact loop_of_inl (commentStep_of_isAtEnd (steady ahead))
  | case2 depth c =>
      have step : commentStep depth cursor = .inr (depth, cursor.pass [c]) := by
        simp [commentStep, isAtEnd_of_eq_cons ahead, startsWith, ahead, blockOpener, blockCloser,
          advance_of_eq_cons ahead]
      have atEnd := isSteady_pass_cons ahead (remaining_pass_cons ahead)
      exact (loop_of_inr step).trans (loop_of_inl (commentStep_of_isAtEnd atEnd))
  | case3 depth c d rest isOpener inductionHypothesis =>
      have step : commentStep depth cursor = .inr (depth + 1, cursor.pass [c, d]) := by
        rw [commentStep_of_eq_cons_cons ahead, if_pos isOpener]
      have pairSteady := isSteady_pass ahead (List.cons_ne_nil c [d])
      exact goOnThroughComment_eq_pass step (inductionHypothesis pairSteady (remaining_pass ahead))
  | case4 c d rest noOpener isCloser =>
      refine loop_of_inl ?_
      rw [commentStep_of_eq_cons_cons ahead, if_neg noOpener, if_pos isCloser, if_pos rfl]
  | case5 c d rest noOpener isCloser outer inductionHypothesis =>
      have step : commentStep (outer + 1) cursor = .inr (outer, cursor.pass [c, d]) := by
        rw [commentStep_of_eq_cons_cons ahead, if_neg noOpener, if_pos isCloser,
          if_neg (Nat.succ_ne_zero outer)]
        rfl
      have pairSteady := isSteady_pass ahead (List.cons_ne_nil c [d])
      exact goOnThroughComment_eq_pass step (inductionHypothesis pairSteady (remaining_pass ahead))
  | case6 depth c d rest noOpener noCloser inductionHypothesis =>
      have step : commentStep depth cursor = .inr (depth, cursor.pass [c]) := by
        rw [commentStep_of_eq_cons_cons ahead, if_neg noOpener, if_neg noCloser]
      exact goOnThroughComment_eq_pass step
        (inductionHypothesis (isSteady_pass_cons ahead) (remaining_pass ahead))

/-- Within a character, neither a mark of comments nor the end is ever found. -/
theorem goOnThroughComment_eq_none (depth : Nat) (unsteady : ¬cursor.IsSteady) :
    cursor.goOnThroughComment depth = .none := by
  obtain ⟨ahead, notAtEnd⟩ := Classical.not_imp.mp unsteady
  refine loop_eq_none ?_
  simp [commentStep, notAtEnd, startsWith, ahead, blockOpener, blockCloser,
    advance_of_eq_nil ahead]

end Cursor
end SqlLexer
