import SqlLexer.Proofs.TokenStream.Ahead

/-!
# Outcomes of readings

The steps of a reading are followed one at a time.  What a reading finds is then compared with
what a function on token lists finds in the tokens ahead: trivia, positions and end marks no
longer show there.
-/

namespace SqlLexer
namespace Reading

section
variable {ε α β : Type} {stream after : TokenStream} {reading : Reading ε α}

/-- After a success, the next reading goes on with its value, from where it ended. -/
theorem bind_of_ok
    {value : α}
    (outcome : reading stream = .ok value after)
    (next : α → Reading ε β) :
    (reading >>= next) stream = next value after := by
  change EStateM.bind reading next stream = _
  rw [EStateM.bind, outcome]

/-- After a failure, nothing else is read. -/
theorem bind_of_error
    {error : ε}
    (outcome : reading stream = .error error after)
    (next : α → Reading ε β) :
    (reading >>= next) stream = .error error after := by
  change EStateM.bind reading next stream = _
  rw [EStateM.bind, outcome]

theorem tryCatch_of_ok
    {value : α}
    (outcome : reading stream = .ok value after)
    (handler : ε → Reading ε α) :
    tryCatch reading handler stream = .ok value after := by
  change EStateM.tryCatch reading handler stream = _
  delta EStateM.tryCatch
  simp only [outcome]

/-- A handler goes on where the reading failed. -/
theorem tryCatch_of_error
    {error : ε}
    (outcome : reading stream = .error error after)
    (handler : ε → Reading ε α) :
    tryCatch reading handler stream = handler error after := by
  change EStateM.tryCatch reading handler stream = _
  delta EStateM.tryCatch
  simp only [outcome]
  rfl

theorem get_bind (next : TokenStream → Reading ε β) : (get >>= next) stream = next stream stream :=
  rfl

theorem current_bind (next : Token → Reading ε β) :
    (current >>= next) stream = next stream.current stream :=
  rfl

theorem skipTrivia_bind (next : Unit → Reading ε β) :
    (skipTrivia >>= next) stream = next () stream.skipTrivia :=
  rfl

/-- The keyword that is expected is taken. -/
theorem expectKeyword_of_checkKeyword
    {word : Text}
    (found : stream.checkKeyword word) :
    expectKeyword word stream = .ok stream.current stream.advance := by
  rw [expectKeyword, get_bind, if_pos found]
  rfl

/-- Any other token is left where it is, and the error names the keyword that was expected. -/
theorem expectKeyword_of_not_checkKeyword
    {word : Text}
    (missing : stream.checkKeyword word = false) :
    expectKeyword word stream = .error (stream.unexpected word) stream := by
  rw [expectKeyword, get_bind, if_neg (by simp [missing])]
  rfl

/-! ## Readings and token lists -/

/-- What a reading yields and which tokens are then ahead, or nothing where it fails. -/
def seen (reading : Reading ε α) (stream : TokenStream) : Option (α × List Token) :=
  match reading stream with
  | .ok value after => some (value, after.ahead)
  | .error _ _ => none

theorem seen_congr
    {other : Reading ε α}
    (same : reading stream = other after) :
    seen reading stream = seen other after := by
  rw [seen, seen, same]

theorem seen_of_error
    {error : ε}
    (outcome : reading stream = .error error after) :
    seen reading stream = none := by
  rw [seen, outcome]

/-- Readings that find what a function on lists finds in the tokens ahead, and stop at the tokens
that the function leaves. -/
def Sees (reading : Reading ε α) (find? : List Token → Option (α × List Token)) : Prop :=
  ∀ stream, seen reading stream = find? stream.ahead

theorem sees_pure (value : α) :
    Sees (pure value : Reading ε α) fun tokens => some (value, tokens) :=
  fun _ => rfl

/-- A reading that passes over trivia first is followed from settled streams on. -/
theorem sees_skipTrivia
    {find? : List Token → Option (α × List Token)}
    (sees : ∀ stream : TokenStream, stream.IsSettled →
      seen reading stream = find? stream.ahead) :
    Sees (do skipTrivia; reading) find? := by
  intro stream
  rw [seen_congr (skipTrivia_bind _), ← stream.ahead_skipTrivia]
  exact sees stream.skipTrivia stream.isSettled_skipTrivia

/-- A successful attempt ends where its reading ends. -/
theorem attempt_of_ok
    {value : α}
    (outcome : reading stream = .ok value after) :
    attempt reading stream = .ok value after := by
  rw [attempt, outcome]

end
end Reading
end SqlLexer
