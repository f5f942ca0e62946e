import SqlLexer.Proofs.TokenStream.Index
import SqlLexer.Proofs.TokenStream.Outcome

/-!
# Moving without passing an end mark

Readers of names move on over tokens, and sometimes back to where they started.  None of the moves
leads past an end mark, wherever in the list it stands.
-/

namespace SqlLexer

/-- A stream leads to another one and no end mark lies between them. -/
structure TokenStream.Passes (before after : TokenStream) : Prop extends before.LeadsTo after where
  noMark : ∀ index, before.position ≤ index → index < after.position →
    (before.tokenAt index).kind ≠ .endOfFile

namespace TokenStream

variable {before after : TokenStream}

/-- The tokens stay what they are wherever a stream is led. -/
theorem LeadsTo.tokenAt_eq
    (leads : before.LeadsTo after)
    (index : Nat) :
    after.tokenAt index = before.tokenAt index := by
  rw [tokenAt, tokenAt, leads.tokens_eq, leads.endMark_eq]

theorem LeadsTo.eq_moveTo
    (leads : before.LeadsTo after) :
    after = before.moveTo after.position := by
  rcases before with ⟨source, tokens, position, endMark, isEndMark⟩
  rcases after with ⟨_, _, reached, _, _⟩
  obtain ⟨rfl, rfl, rfl, _, _⟩ := leads
  rfl

/-- A stream is led forward, and not beyond the end of its list. -/
theorem LeadsTo.position_le
    (leads : before.LeadsTo after)
    (inside : before.position ≤ before.tokens.size) :
    before.position ≤ after.position ∧ after.position ≤ after.tokens.size := by
  obtain ⟨_, sameTokens, _, bound, left⟩ := leads
  simp only [tokensLeft, sameTokens] at left
  rw [sameTokens] at bound ⊢
  omega

namespace Passes

theorem refl (stream : TokenStream) : stream.Passes stream where
  toLeadsTo := LeadsTo.refl stream
  noMark _ behind ahead := absurd (Nat.lt_of_le_of_lt behind ahead) (Nat.lt_irrefl _)

/-- No end mark lies on a way that is put together from two ways without one. -/
theorem trans
    {first second third : TokenStream}
    (before : first.Passes second)
    (after : second.Passes third) :
    first.Passes third where
  toLeadsTo := before.toLeadsTo.trans after.toLeadsTo
  noMark := by
    intro index behind ahead
    rcases Nat.lt_or_ge index second.position with early | late
    · exact before.noMark index behind early
    · rw [← before.tokenAt_eq]
      exact after.noMark index late ahead

/-- The way back passes nothing. -/
theorem seek_back (passes : before.Passes after) :
    before.Passes (after.seek before.position) where
  toLeadsTo := passes.toLeadsTo.seek_back
  noMark := by
    intro index behind ahead
    have atMost : (after.seek before.position).position ≤ before.position := Nat.min_le_left _ _
    omega

end Passes

/-- A step from a token other than an end mark passes over no end mark. -/
theorem passes_advance
    {stream : TokenStream}
    (notEnd : stream.current.kind ≠ .endOfFile) :
    stream.Passes stream.advance where
  toLeadsTo := leadsTo_advance stream
  noMark := by
    intro index behind ahead
    have moved : stream.advance = stream.moveTo (stream.position + 1) := advance_moveTo notEnd
    rw [moved] at ahead
    obtain rfl : index = stream.position := Nat.le_antisymm (Nat.le_of_lt_succ ahead) behind
    exact notEnd

/-- End marks are not trivia, so skipping trivia stops at the first of them. -/
theorem passes_skipTrivia (stream : TokenStream) : stream.Passes stream.skipTrivia where
  toLeadsTo := leadsTo_skipTrivia stream
  noMark := by
    intro index behind ahead isEnd
    rw [skipTrivia_eq] at ahead
    have trivia := not_wanted_of_lt_firstFrom behind ahead
    rw [isEnd] at trivia
    contradiction

theorem kind_ne_endOfFile_of_checkKeyword
    {stream : TokenStream}
    {word : Text}
    (found : stream.checkKeyword word) :
    stream.current.kind ≠ .endOfFile := by
  intro isEnd
  rw [not_checkKeyword_of_endOfFile isEnd] at found
  contradiction

/-- No end mark lies among keywords and the trivia behind them. -/
theorem passes_skipKeywords (words : List Text) (stream : TokenStream) :
    stream.Passes (stream.skipKeywords words) := by
  fun_induction skipKeywords words stream with
  | case1 stream found inductionHypothesis =>
      obtain ⟨word, _, isWord⟩ := List.any_eq_true.mp found
      have onward := passes_advance (kind_ne_endOfFile_of_checkKeyword isWord)
      exact ((passes_skipTrivia stream).trans onward).trans inductionHypothesis
  | case2 stream missing => exact passes_skipTrivia stream

end TokenStream

namespace Reading

/-- A reading that never passes an end mark. -/
def Passing {ε α : Type} (reading : Reading ε α) : Prop :=
  ∀ stream : TokenStream, stream.Passes (streamAfter reading stream)

variable {ε α β : Type} {reading : Reading ε α}

theorem passing_pure (value : α) : Passing (pure value : Reading ε α) :=
  TokenStream.Passes.refl

/-- Two readings pass over no end mark, one after the other, if each of them passes over none. -/
theorem passing_bind
    {next : α → Reading ε β}
    (first : Passing reading)
    (second : ∀ value, Passing (next value)) :
    Passing (reading >>= next) :=
  streamAfter_bind TokenStream.Passes.trans first second

theorem passing_attempt (passing : Passing reading) : Passing (attempt reading) :=
  streamAfter_attempt TokenStream.Passes.seek_back passing

theorem passing_skipTrivia : Passing (skipTrivia : Reading ε Unit) :=
  TokenStream.passes_skipTrivia

/-- Only the keyword itself is passed over. -/
theorem passing_expectKeyword (word : Text) : Passing (expectKeyword word) := by
  intro stream
  cases found : stream.checkKeyword word with
  | true =>
      rw [streamAfter, expectKeyword_of_checkKeyword found]
      exact TokenStream.passes_advance (TokenStream.kind_ne_endOfFile_of_checkKeyword found)
  | false =>
      rw [streamAfter, expectKeyword_of_not_checkKeyword found]
      exact TokenStream.Passes.refl stream

end Reading
end SqlLexer
