import SqlLexer.Name.Declared
import SqlLexer.Proofs.TokenStream.Outcome

/-!
# Readings only change positions

A reader looks at a stream and moves it by a few operations, which it may try out and give up
again.  Whatever it does, and whether or not it succeeds, the stream it leaves is the one it was
given or that one at another position.
-/

namespace SqlLexer
namespace TokenStream

/-- A stream becomes another one by staying where it is or by moving to some position. -/
def JumpsTo (before after : TokenStream) : Prop :=
  after = before ∨ ∃ position, after = before.seek position

/-- The last of several moves decides where a stream is. -/
@[simp] theorem seek_seek (stream : TokenStream) (first second : Nat) :
    (stream.seek first).seek second = stream.seek second :=
  rfl

theorem jumpsTo_seek (stream : TokenStream) (position : Nat) :
    stream.JumpsTo (stream.seek position) :=
  .inr ⟨position, rfl⟩

theorem JumpsTo.trans
    {origin between target : TokenStream}
    (before : origin.JumpsTo between)
    (after : between.JumpsTo target) :
    origin.JumpsTo target := by
  rcases after with rfl | ⟨position, rfl⟩
  · exact before
  · rcases before with rfl | ⟨passed, rfl⟩
    · exact jumpsTo_seek _ position
    · rw [seek_seek]
      exact jumpsTo_seek origin position

/-- A move forward is a jump. -/
theorem LeadsTo.jumpsTo
    {before after : TokenStream}
    (leads : before.LeadsTo after) :
    before.JumpsTo after := by
  rcases before with ⟨source, tokens, position, endMark, isEndMark⟩
  rcases after with ⟨_, _, reached, _, _⟩
  obtain ⟨rfl, rfl, rfl, bound, _⟩ := leads
  rcases bound with same | inside
  · cases same
    exact .inl rfl
  · refine .inr ⟨reached, ?_⟩
    rw [seek, Nat.min_eq_left inside]

/-- A token is taken by one step or not at all. -/
theorem leadsTo_takeIf (stream : TokenStream) (accepted : Bool) :
    stream.LeadsTo (stream.takeIf accepted).2 := by
  cases accepted with
  | true => exact leadsTo_advance stream
  | false => exact LeadsTo.refl stream

end TokenStream

namespace Reading

/-- A reading that changes nothing but the position. -/
def Jumps {ε α : Type} (reading : Reading ε α) : Prop :=
  ∀ stream : TokenStream, stream.JumpsTo (streamAfter reading stream)

section
variable {ε α β : Type} {reading : Reading ε α}

theorem Forward.jumps (forward : Forward reading) : Jumps reading :=
  fun stream => (forward stream).jumpsTo

/-- A move that also yields a value. -/
theorem forward_modifyGet
    {change : TokenStream → α × TokenStream}
    (leads : ∀ stream : TokenStream, stream.LeadsTo (change stream).2) :
    Forward (modifyGet change : Reading ε α) :=
  leads

/-- Two readings jump, one after the other, if each of them does. -/
theorem jumps_bind
    {next : α → Reading ε β}
    (first : Jumps reading)
    (second : ∀ value, Jumps (next value)) :
    Jumps (reading >>= next) :=
  streamAfter_bind TokenStream.JumpsTo.trans first second

/-- A caught error leaves the stream where the reading failed. -/
theorem jumps_tryCatch
    {handler : ε → Reading ε α}
    (first : Jumps reading)
    (second : ∀ error, Jumps (handler error)) :
    Jumps (tryCatch reading handler) := by
  intro stream
  have reached := first stream
  rw [streamAfter] at reached ⊢
  cases outcome : reading stream with
  | ok value ahead =>
      rw [outcome] at reached
      rw [tryCatch_of_ok outcome]
      exact reached
  | error error stopped =>
      rw [outcome] at reached
      rw [tryCatch_of_error outcome]
      exact reached.trans (second error stopped)

theorem jumps_attempt (jumps : Jumps reading) : Jumps (attempt reading) :=
  streamAfter_attempt (fun moved => moved.trans (TokenStream.jumpsTo_seek _ _)) jumps

end

/-- An expected token is taken, and any other one is left where it is. -/
theorem forward_expect (kind : Kind) : Forward (expect kind) := by
  unfold expect
  refine forward_bind forward_get fun stream => ?_
  split
  · exact forward_advance
  · exact forward_failExpecting _

end Reading

/-- The declarations of a stream are read from its position on. -/
theorem leadsTo_declaredNames (stream : TokenStream) :
    stream.LeadsTo (declaredNames stream).2 := by
  fun_induction declaredNames stream with
  | case1 stream atEnd => exact stream.leadsTo_skipTrivia
  | case2 stream inside isCreate declaration others inductionHypothesis =>
      exact stream.leadsTo_skipTrivia.trans <|
        (TokenStream.leadsTo_advance _).trans <|
          (DeclaredName.leadsTo_readObject _).trans inductionHypothesis
  | case3 stream inside other inductionHypothesis =>
      exact stream.leadsTo_skipTrivia.trans <|
        (TokenStream.leadsTo_advance _).trans inductionHypothesis

/-! ## Readings made of operations -/

/-- The readings that use a stream through its operations alone.  What they do next may depend on
everything the stream shows and on what came of the operations before, a failure included. -/
inductive Reading.IsComposed : {α : Type} → Reading ParseError α → Prop
  | value {α : Type} (result : α) :
      IsComposed (pure result)
  | failure {α : Type} (error : ParseError) :
      IsComposed (throw error : Reading ParseError α)
  | look :
      IsComposed (get : Reading ParseError TokenStream)
  | sequence {α β : Type} {reading : Reading ParseError α} {next : α → Reading ParseError β}
      (first : IsComposed reading)
      (second : ∀ value, IsComposed (next value)) :
      IsComposed (reading >>= next)
  | recovery {α : Type} {reading : Reading ParseError α}
      {handler : ParseError → Reading ParseError α}
      (first : IsComposed reading)
      (second : ∀ error, IsComposed (handler error)) :
      IsComposed (tryCatch reading handler)
  | attempt {α : Type} {reading : Reading ParseError α}
      (inner : IsComposed reading) :
      IsComposed (Reading.attempt reading)
  | advance :
      IsComposed Reading.advance
  | skipTrivia :
      IsComposed Reading.skipTrivia
  | seek (position : Nat) :
      IsComposed (Reading.move fun stream => stream.seek position)
  | takeKind (kind : Kind) :
      IsComposed (modifyGet fun stream => stream.takeKind kind)
  | takeAny (kinds : List Kind) :
      IsComposed (modifyGet fun stream => stream.takeAny kinds)
  | takeKeyword (word : Text) :
      IsComposed (modifyGet fun stream => stream.takeKeyword word)
  | expect (kind : Kind) :
      IsComposed (Reading.expect kind)
  | expectKeyword (word : Text) :
      IsComposed (Reading.expectKeyword word)
  | readName :
      IsComposed QualifiedName.read
  | declaredNames :
      IsComposed (modifyGet SqlLexer.declaredNames)

/-- Operations change nothing but the position, however they are put together. -/
theorem Reading.IsComposed.jumps
    {α : Type}
    {reading : Reading ParseError α}
    (composed : IsComposed reading) :
    Jumps reading := by
  induction composed with
  | value result => exact (forward_pure result).jumps
  | failure error => exact (forward_throw error).jumps
  | look => exact forward_get.jumps
  | sequence _ _ first second => exact jumps_bind first second
  | recovery _ _ first second => exact jumps_tryCatch first second
  | attempt _ inner => exact jumps_attempt inner
  | advance => exact forward_advance.jumps
  | skipTrivia => exact forward_skipTrivia.jumps
  | seek position => exact fun stream => stream.jumpsTo_seek position
  | takeKind kind => exact (forward_modifyGet fun stream => stream.leadsTo_takeIf _).jumps
  | takeAny kinds => exact (forward_modifyGet fun stream => stream.leadsTo_takeIf _).jumps
  | takeKeyword word => exact (forward_modifyGet fun stream => stream.leadsTo_takeIf _).jumps
  | expect kind => exact (forward_expect kind).jumps
  | expectKeyword word => exact (forward_expectKeyword word).jumps
  | readName => exact QualifiedName.forward_read.jumps
  | declaredNames => exact (forward_modifyGet leadsTo_declaredNames).jumps

end SqlLexer
