import SqlLexer.Proofs.TokenStream.Outcome
import SqlLexer.Proofs.TokenStream.View

/-!
# Attempts are all or nothing

A reading that is only attempted keeps what it did if it succeeds and leaves no trace if it fails,
whatever attempts it makes itself on the way.  The way back is a jump to a position, and it is exact
because no stream that operations reach has left its tokens.
-/

namespace SqlLexer
namespace TokenStream

/-- From wherever a jump led, the place of a stream within its tokens is the way back to it. -/
theorem JumpsTo.seek_position
    {before after : TokenStream}
    (moved : before.JumpsTo after)
    (inside : before.position ≤ before.tokens.size) :
    after.seek before.position = before := by
  have same : before.seek before.position = before := by
    rw [seek, Nat.min_eq_left inside]
  rcases moved with rfl | ⟨position, rfl⟩
  · exact same
  · rw [seek_seek, same]

/-- A jump from within the tokens changes a position in them for another. -/
theorem JumpsTo.exists_position
    {before after : TokenStream}
    (moved : before.JumpsTo after)
    (inside : before.position ≤ before.tokens.size) :
    ∃ position ≤ before.tokens.size, after = { before with position := position } := by
  rcases moved with rfl | ⟨position, rfl⟩
  · exact ⟨after.position, inside, rfl⟩
  · exact ⟨min position before.tokens.size, Nat.min_le_right _ _, rfl⟩

end TokenStream

namespace Reading

/-- What an attempt at a reading does with a stream. -/
structure IsAllOrNothing {ε α : Type} (reading : Reading ε α) (stream : TokenStream) : Prop where
  /-- It succeeds as the reading does, and the stream stays where the reading ended. -/
  ok_iff : ∀ value ended,
    attempt reading stream = .ok value ended ↔ reading stream = .ok value ended
  /-- It fails as the reading does, and the stream is what it was, wherever the reading stopped. -/
  error_iff : ∀ error ended,
    attempt reading stream = .error error ended ↔
      (∃ stopped, reading stream = .error error stopped) ∧ ended = stream
  /-- Whoever passes over the failure goes on as if nothing had been attempted. -/
  recovery : ∀ error stopped, reading stream = .error error stopped →
    ∀ handler : ε → Reading ε α,
      tryCatch (attempt reading) handler stream = handler error stream
  /-- In either case the stream is at a position in its tokens and not changed otherwise. -/
  position : ∃ position ≤ stream.tokens.size,
    streamAfter (attempt reading) stream = { stream with position := position }

section
variable {ε α : Type} {reading : Reading ε α} {stream : TokenStream}

/-- An attempt succeeds where its reading does, with the same value and at the same position. -/
theorem attempt_eq_ok_iff (value : α) (ended : TokenStream) :
    attempt reading stream = .ok value ended ↔ reading stream = .ok value ended := by
  unfold attempt
  cases reading stream <;> simp

/-- A reading that only jumps fails in an attempt as it does by itself, and the stream is back where
it was. -/
theorem attempt_of_error
    {error : ε}
    {stopped : TokenStream}
    (jumps : Jumps reading)
    (inside : stream.position ≤ stream.tokens.size)
    (outcome : reading stream = .error error stopped) :
    attempt reading stream = .error error stream := by
  have moved := jumps stream
  rw [streamAfter, outcome] at moved
  rw [attempt, outcome]
  exact congrArg (EStateM.Result.error error) (moved.seek_position inside)

/-- An attempt fails where its reading does, with the same error, and puts the stream back to where
it was. -/
theorem attempt_eq_error_iff
    (jumps : Jumps reading)
    (inside : stream.position ≤ stream.tokens.size)
    (error : ε)
    (ended : TokenStream) :
    attempt reading stream = .error error ended ↔
      (∃ stopped, reading stream = .error error stopped) ∧ ended = stream := by
  constructor
  · intro failed
    cases outcome : reading stream with
    | ok value after =>
        rw [(attempt_eq_ok_iff value after).mpr outcome] at failed
        contradiction
    | error cause stopped =>
        rw [attempt_of_error jumps inside outcome] at failed
        cases failed
        exact ⟨⟨stopped, rfl⟩, rfl⟩
  · rintro ⟨⟨stopped, outcome⟩, rfl⟩
    exact attempt_of_error jumps inside outcome

theorem isAllOrNothing_of_jumps
    (jumps : Jumps reading)
    (inside : stream.position ≤ stream.tokens.size) :
    IsAllOrNothing reading stream where
  ok_iff := attempt_eq_ok_iff
  error_iff := attempt_eq_error_iff jumps inside
  recovery _ _ outcome := tryCatch_of_error (attempt_of_error jumps inside outcome)
  position := (jumps_attempt jumps stream).exists_position inside

end
end Reading

namespace TokenStream

/-- Whatever operations have led to a stream, an attempt at a reading made of operations is all or
nothing there. -/
theorem isAllOrNothing_of_isReached
    {source : Text}
    {tokens : List Token}
    {stream : TokenStream}
    (reached : IsReached source tokens stream)
    {α : Type}
    {reading : Reading ParseError α}
    (composed : reading.IsComposed) :
    reading.IsAllOrNothing stream := by
  obtain ⟨position, rfl⟩ := reached.exists_seek
  exact Reading.isAllOrNothing_of_jumps composed.jumps (Nat.min_le_right position _)

/-- From the second token on, an attempt that goes back to the first one and fails, the end mark of
the list taken instead, a search for declarations up to the end, and an attempt that fails there. -/
theorem isAllOrNothing_of_isReached_nested :
    ∃ (stream : TokenStream) (reading : Reading ParseError Token),
      IsReached "a.".toList markBeforeDot stream ∧ reading.IsComposed ∧
        stream.position = 1 ∧ (reading.streamAfter stream).position = 3 ∧
        ((Reading.attempt reading).streamAfter stream).position = 1 ∧
        reading.IsAllOrNothing stream := by
  have reached : IsReached "a.".toList markBeforeDot _ := .step .start .advance
  have inner : Reading.IsComposed _ :=
    .attempt (.sequence (.seek 0) fun _ => .sequence (.expect .identifier) fun _ => .expect .comma)
  have composed : Reading.IsComposed _ :=
    .sequence (.recovery inner fun _ => .advance) fun _ =>
      .sequence .declaredNames fun _ => .attempt (.expect .identifier)
  exact ⟨_, _, reached, composed, rfl, by decide +kernel, by decide +kernel,
    isAllOrNothing_of_isReached reached composed⟩

end TokenStream
end SqlLexer
