import SqlLexer.TokenStream.Reading

/-!
# Forward readings

Moving a stream changes nothing but its position.  The readings of names never move a stream
back, whether they succeed or fail, so a loop over them comes to an end.
-/

namespace SqlLexer

/-- A stream leads to another: both have the same tokens, no more of them lie ahead in the second,
and the second has not left the tokens. -/
structure TokenStream.LeadsTo (before after : TokenStream) : Prop where
  source_eq : after.source = before.source
  tokens_eq : after.tokens = before.tokens
  endMark_eq : after.endMark = before.endMark
  position_eq_or_le : after.position = before.position ∨ after.position ≤ after.tokens.size
  tokensLeft_le : after.tokensLeft ≤ before.tokensLeft

namespace TokenStream

theorem LeadsTo.refl (stream : TokenStream) : stream.LeadsTo stream :=
  ⟨rfl, rfl, rfl, .inl rfl, Nat.le_refl _⟩

theorem LeadsTo.trans
    {first second third : TokenStream}
    (before : first.LeadsTo second)
    (after : second.LeadsTo third) :
    first.LeadsTo third := by
  refine ⟨after.source_eq.trans before.source_eq, after.tokens_eq.trans before.tokens_eq,
    after.endMark_eq.trans before.endMark_eq, ?_,
    Nat.le_trans after.tokensLeft_le before.tokensLeft_le⟩
  rcases after.position_eq_or_le with same | inside
  · rw [same, after.tokens_eq]
    exact before.position_eq_or_le
  · exact .inr inside

theorem leadsTo_advance (stream : TokenStream) : stream.LeadsTo stream.advance := by
  refine ⟨?_, ?_, ?_, ?_, ?_⟩
  · unfold advance
    split <;> rfl
  · unfold advance
    split <;> rfl
  · unfold advance
    split <;> rfl
  · unfold advance
    split
    · exact .inr ‹_›
    · exact .inl rfl
  · rw [tokensLeft_advance]
    omega

theorem leadsTo_skipTrivia (stream : TokenStream) : stream.LeadsTo stream.skipTrivia := by
  fun_induction skipTrivia stream with
  | case1 stream trivia inductionHypothesis =>
      exact (leadsTo_advance stream).trans inductionHypothesis
  | case2 stream significant => exact LeadsTo.refl stream

theorem leadsTo_skipKeywords (words : List Text) (stream : TokenStream) :
    stream.LeadsTo (stream.skipKeywords words) := by
  fun_induction skipKeywords words stream with
  | case1 stream found inductionHypothesis =>
      exact ((leadsTo_skipTrivia stream).trans (leadsTo_advance _)).trans inductionHypothesis
  | case2 stream missing => exact leadsTo_skipTrivia stream

/-- Returning from a later position to the one it came from leads nowhere else. -/
theorem LeadsTo.seek_back
    {before after : TokenStream}
    (leads : before.LeadsTo after) :
    before.LeadsTo (after.seek before.position) := by
  refine ⟨leads.source_eq, leads.tokens_eq, leads.endMark_eq, .inr (Nat.min_le_right _ _), ?_⟩
  simp only [tokensLeft, seek, leads.tokens_eq]
  omega

end TokenStream

namespace Reading

/-- Where a reading leaves a stream, whether it succeeds or fails. -/
def streamAfter {ε α : Type} (reading : Reading ε α) (stream : TokenStream) : TokenStream :=
  match reading stream with
  | .ok _ after => after
  | .error _ after => after

section
variable {ε α β : Type} {reading : Reading ε α} {related : TokenStream → TokenStream → Prop}

/-- What relates a stream to the one that a reading leaves, and the latter to the one that the next
reading leaves, relates the first of them to the last if it is transitive. -/
theorem streamAfter_bind
    {next : α → Reading ε β}
    (trans : ∀ {origin between target : TokenStream},
      related origin between → related between target → related origin target)
    (first : ∀ stream, related stream (streamAfter reading stream))
    (second : ∀ value stream, related stream (streamAfter (next value) stream))
    (stream : TokenStream) :
    related stream (streamAfter (reading >>= next) stream) := by
  have reached := first stream
  unfold streamAfter at reached ⊢
  change related stream (match EStateM.bind reading next stream with
    | .ok _ after => after
    | .error _ after => after)
  unfold EStateM.bind
  cases outcome : reading stream with
  | ok value ahead =>
      rw [outcome] at reached
      exact trans reached (second value ahead)
  | error error stopped =>
      rw [outcome] at reached
      exact reached

/-- What relates a stream to the one that a reading leaves, and to that one moved back, relates it
to the one that an attempt leaves. -/
theorem streamAfter_attempt
    (back : ∀ {before after : TokenStream},
      related before after → related before (after.seek before.position))
    (inner : ∀ stream, related stream (streamAfter reading stream))
    (stream : TokenStream) :
    related stream (streamAfter (attempt reading) stream) := by
  have reached := inner stream
  unfold streamAfter at reached ⊢
  unfold attempt
  cases outcome : reading stream with
  | ok value ahead =>
      rw [outcome] at reached
      exact reached
  | error error stopped =>
      rw [outcome] at reached
      exact back reached

end

/-- A reading that never moves a stream back. -/
def Forward {ε α : Type} (reading : Reading ε α) : Prop :=
  ∀ stream : TokenStream, stream.LeadsTo (streamAfter reading stream)

theorem forward_pure {ε α : Type} (value : α) : Forward (pure value : Reading ε α) :=
  TokenStream.LeadsTo.refl

theorem forward_get {ε : Type} : Forward (get : Reading ε TokenStream) :=
  TokenStream.LeadsTo.refl

theorem forward_throw {ε α : Type} (error : ε) : Forward (throw error : Reading ε α) :=
  TokenStream.LeadsTo.refl

theorem forward_move
    {ε : Type}
    {change : TokenStream → TokenStream}
    (leads : ∀ stream : TokenStream, stream.LeadsTo (change stream)) :
    Forward (move change : Reading ε Unit) :=
  leads

theorem forward_bind
    {ε α β : Type}
    {reading : Reading ε α}
    {next : α → Reading ε β}
    (first : Forward reading)
    (second : ∀ value, Forward (next value)) :
    Forward (reading >>= next) :=
  streamAfter_bind TokenStream.LeadsTo.trans first second

theorem forward_attempt
    {ε α : Type}
    {reading : Reading ε α}
    (forward : Forward reading) :
    Forward (attempt reading) :=
  streamAfter_attempt TokenStream.LeadsTo.seek_back forward

theorem forward_current {ε : Type} : Forward (current : Reading ε Token) :=
  TokenStream.LeadsTo.refl

theorem forward_skipTrivia {ε : Type} : Forward (skipTrivia : Reading ε Unit) :=
  TokenStream.leadsTo_skipTrivia

theorem forward_advance {ε : Type} : Forward (advance : Reading ε Token) :=
  TokenStream.leadsTo_advance

theorem forward_failExpecting {α : Type} (expected : Text) :
    Forward (failExpecting expected : Reading ParseError α) :=
  TokenStream.LeadsTo.refl

theorem forward_expectKeyword (word : Text) : Forward (expectKeyword word) := by
  unfold expectKeyword
  refine forward_bind forward_get fun stream => ?_
  split
  · exact forward_advance
  · exact forward_failExpecting word

end Reading
end SqlLexer
