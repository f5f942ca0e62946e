import SqlLexer.Lexeme.Comment
import SqlLexer.Proofs.Lexeme.Doubled
import SqlLexer.Proofs.Text.Stopping

/-!
# Lexemes that run to a closing mark

A quoted lexeme stops behind a quote that no other one follows.  A block comment stops behind the
closer that its opener needs, whatever follows there.
-/

namespace SqlLexer
namespace Lexeme

theorem quotedBody_stops (quote : Char) : Text.Stops (quotedBody quote) (· = quote) := by
  intro text
  obtain ⟨content, rfl | ⟨after, closes, rfl⟩⟩ := exists_doubled quote text
  · exact .inl (quotedBody_doubled_eq quote content)
  · refine .inr ⟨doubled quote content ++ [quote], after, ?_, ?_, ?_⟩
    · rw [List.append_assoc]
      rfl
    · intro c isNext
      rw [decide_eq_false_iff_not]
      rintro rfl
      exact closes isNext
    · intro other apart
      rw [List.append_assoc]
      exact quotedBody_doubled_append (fun isNext => by simpa using apart quote isNext) content

theorem quoted_stops (quote : Char) : Text.Stops (quoted quote) (· = quote) :=
  (quotedBody_stops quote).behind fun _ => rfl

/-- A quoted lexeme ends in its quote or with the text. -/
theorem quotedBody_ends (quote : Char) (text : Text) :
    quotedBody quote text = text ∨ (quotedBody quote text).getLast? = some quote := by
  obtain ⟨content, rfl | ⟨after, closes, rfl⟩⟩ := exists_doubled quote text
  · exact .inl (quotedBody_doubled_eq quote content)
  · refine .inr ?_
    rw [quotedBody_doubled_append closes, List.getLast?_concat]

/-- A comment without its opener stops where the depth falls back to that of the text around it. -/
theorem blockBody_stops (depth : Nat) : Text.Stops (blockBody depth) fun _ => false := by
  intro text
  fun_induction blockBody depth text with
  | case1 => exact .inl rfl
  | case2 => exact .inl rfl
  | case3 depth c d rest opens inductionHypothesis =>
      obtain ⟨rfl, rfl⟩ := opens
      rcases inductionHypothesis with whole | ⟨inside, after, stop⟩
      · exact .inl (by rw [whole])
      · refine .inr ⟨['/', '*'] ++ inside, after, stop.front ['/', '*'] fun other => ?_⟩
        exact blockBody_opener depth (inside ++ other)
  | case4 c d rest _ closes =>
      obtain ⟨rfl, rfl⟩ := closes
      exact .inr ⟨['*', '/'], rest, rfl, fun _ _ => rfl, fun other _ => blockBody_closer_zero other⟩
  | case5 c d rest _ closes outer inductionHypothesis =>
      obtain ⟨rfl, rfl⟩ := closes
      rcases inductionHypothesis with whole | ⟨inside, after, stop⟩
      · exact .inl (by rw [whole])
      · refine .inr ⟨['*', '/'] ++ inside, after, stop.front ['*', '/'] fun other => ?_⟩
        exact blockBody_closer_succ outer (inside ++ other)
  | case6 depth c d rest noOpener noCloser inductionHypothesis =>
      rcases inductionHypothesis with whole | ⟨inside, after, stop⟩
      · exact .inl (by rw [whole])
      -- Nothing is read only where nothing is left, so the next character is inside as well.
      cases inside with
      | nil => exact absurd (stop.read_append [d] fun _ _ => rfl) (List.cons_ne_nil d [])
      | cons e inside =>
          obtain ⟨rfl, _⟩ := List.cons.inj stop.split
          refine .inr ⟨[c] ++ d :: inside, after, stop.front [c] fun other => ?_⟩
          exact blockBody_cons_cons_of_not noOpener noCloser depth (inside ++ other)

/-- A comment stops behind its last closer, whatever follows. -/
theorem blockComment_stops : Text.Stops (fun text => (blockComment text).text) fun _ => false :=
  (blockBody_stops 0).behind fun _ => rfl

end Lexeme
end SqlLexer
