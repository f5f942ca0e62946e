import SqlLexer.Lexeme.Quoted

/-!
# Doubled quotes

A text is written inside of quotes with each of its quotes doubled.  It is read back up to the
quote that closes it, unless another quote follows that one.  Every text begins with such a text,
which either a quote closes or nothing follows.
-/

namespace SqlLexer
namespace Lexeme

/-- The text with each quote written twice. -/
def doubled (quote : Char) : Text → Text
  | [] => []
  | c :: rest =>
      if c = quote then c :: c :: doubled quote rest
      else c :: doubled quote rest

@[simp] theorem doubled_nil (quote : Char) : doubled quote [] = [] :=
  rfl

@[simp] theorem doubled_cons_self (quote : Char) (rest : Text) :
    doubled quote (quote :: rest) = quote :: quote :: doubled quote rest :=
  if_pos rfl

theorem doubled_cons_of_ne
    {quote c : Char}
    (different : c ≠ quote)
    (rest : Text) :
    doubled quote (c :: rest) = c :: doubled quote rest :=
  if_neg different

/-- A quote that no other one follows closes a quoted lexeme. -/
theorem quotedBody_closing
    {quote : Char}
    {after : Text}
    (closes : quote ∉ after.head?) :
    quotedBody quote (quote :: after) = [quote] := by
  cases after with
  | nil => simp [quotedBody]
  | cons d rest =>
      have different : d ≠ quote := by simpa using closes
      simp [quotedBody, different]

/-- A text with doubled quotes is read as far as the quote behind it. -/
theorem quotedBody_doubled_append
    {quote : Char}
    {after : Text}
    (closes : quote ∉ after.head?)
    (text : Text) :
    quotedBody quote (doubled quote text ++ quote :: after) = doubled quote text ++ [quote] := by
  induction text with
  | nil => exact quotedBody_closing closes
  | cons c rest inductionHypothesis =>
      by_cases isQuote : c = quote
      · subst isQuote
        rw [doubled_cons_self, List.cons_append, List.cons_append, quotedBody_doubled,
          inductionHypothesis]
        rfl
      · rw [doubled_cons_of_ne isQuote, List.cons_append, quotedBody_cons_of_ne isQuote,
          inductionHypothesis]
        rfl

/-- A quoted text is read as a whole. -/
theorem quoted_doubled_append
    {quote : Char}
    {after : Text}
    (closes : quote ∉ after.head?)
    (text : Text) :
    quoted quote (quote :: (doubled quote text ++ quote :: after)) =
      quote :: (doubled quote text ++ [quote]) :=
  congrArg (quote :: ·) (quotedBody_doubled_append closes text)

/-- Without a quote that closes it, a text with doubled quotes is read to its end. -/
theorem quotedBody_doubled_eq (quote : Char) (text : Text) :
    quotedBody quote (doubled quote text) = doubled quote text := by
  induction text with
  | nil => rfl
  | cons c rest inductionHypothesis =>
      by_cases isQuote : c = quote
      · subst isQuote
        rw [doubled_cons_self, quotedBody_doubled, inductionHypothesis]
      · rw [doubled_cons_of_ne isQuote, quotedBody_cons_of_ne isQuote, inductionHypothesis]

/-- Quotes are paired from the left until one is left alone or the text ends. -/
theorem exists_doubled (quote : Char) (text : Text) :
    ∃ content, text = doubled quote content ∨
      ∃ after, quote ∉ after.head? ∧ text = doubled quote content ++ quote :: after := by
  fun_induction quotedBody quote text with
  | case1 => exact ⟨[], .inl rfl⟩
  | case2 => exact ⟨[], .inr ⟨[], by simp, rfl⟩⟩
  | case3 rest inductionHypothesis =>
      obtain ⟨content, whole | ⟨after, closes, split⟩⟩ := inductionHypothesis
      · exact ⟨quote :: content, .inl (by rw [doubled_cons_self, ← whole])⟩
      · refine ⟨quote :: content, .inr ⟨after, closes, ?_⟩⟩
        rw [doubled_cons_self, split]
        rfl
  | case4 d rest different => exact ⟨[], .inr ⟨d :: rest, by simpa using different, rfl⟩⟩
  | case5 c rest different inductionHypothesis =>
      obtain ⟨content, whole | ⟨after, closes, split⟩⟩ := inductionHypothesis
      · exact ⟨c :: content, .inl (by rw [doubled_cons_of_ne different, ← whole])⟩
      · refine ⟨c :: content, .inr ⟨after, closes, ?_⟩⟩
        rw [doubled_cons_of_ne different, split]
        rfl

/-! ## The text inside of the quotes -/

theorem doubled_cons (quote c : Char) (rest : Text) :
    doubled quote (c :: rest) = doubled quote [c] ++ doubled quote rest := by
  by_cases isQuote : c = quote
  · subst isQuote
    rw [doubled_cons_self, doubled_cons_self]
    rfl
  · rw [doubled_cons_of_ne isQuote, doubled_cons_of_ne isQuote]
    rfl

theorem head?_doubled (quote : Char) (text : Text) : (doubled quote text).head? = text.head? := by
  cases text with
  | nil => rfl
  | cons c rest =>
      by_cases isQuote : c = quote
      · rw [isQuote, doubled_cons_self]
        rfl
      · rw [doubled_cons_of_ne isQuote]
        rfl

/-- Texts that are doubled to the same text are the same. -/
theorem doubled_injective (quote : Char) : Function.Injective (doubled quote) := by
  intro first second same
  induction first generalizing second with
  | nil =>
      have sameHead := head?_doubled quote second
      rw [← same] at sameHead
      exact (List.head?_eq_none_iff.mp sameHead.symm).symm
  | cons c first inductionHypothesis =>
      have sameHead := head?_doubled quote second
      rw [← same, head?_doubled] at sameHead
      obtain ⟨second, rfl⟩ := List.head?_eq_some_iff.mp sameHead.symm
      rw [doubled_cons, doubled_cons quote c second] at same
      rw [inductionHypothesis (List.append_cancel_left same)]

end Lexeme
end SqlLexer
