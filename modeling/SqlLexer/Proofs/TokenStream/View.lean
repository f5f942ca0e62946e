import Mathlib.Algebra.Group.Nat.Defs
import Mathlib.Logic.Function.Iterate
import SqlLexer.Proofs.TokenStream.Operations

/-!
# What a stream shows

A stream over a list of tokens shows the tokens from its position on, and after them an end mark
without end.  No sequence of operations changes the list or the mark, and none leaves the list.
-/

namespace SqlLexer
namespace TokenStream

/-! ## The end mark -/

theorem endMarkOf_of_mem_getLast?
    {source : Text}
    {tokens : List Token}
    {last : Token}
    (isLast : last ∈ tokens.getLast?)
    (isEnd : last.kind = .endOfFile) :
    endMarkOf source tokens = last := by
  rw [endMarkOf, Option.mem_def.mp isLast]
  exact if_pos isEnd

/-- An end mark that is not one of the tokens has no text. -/
theorem length_span_endMarkOf
    {source : Text}
    {tokens : List Token}
    (missing : ∀ last ∈ tokens.getLast?, last.kind ≠ .endOfFile) :
    (endMarkOf source tokens).span.length = 0 := by
  unfold endMarkOf
  split
  · rename_i last isLast
    rw [if_neg (missing last isLast)]
    rfl
  · rfl

/-! ## Looking ahead and moving on -/

/-- What is seen after a step was seen one place further away before it, at the end as well. -/
theorem peek_advance (stream : TokenStream) (places : Nat) :
    stream.advance.peek places = stream.peek (places + 1) := by
  unfold advance
  split
  · rw [peek, peek, Nat.add_comm places, ← Nat.add_assoc]
  · rename_i outside
    rw [peek, peek, Array.getElem?_eq_none (by omega), Array.getElem?_eq_none (by omega)]

/-- Peeking some tokens ahead shows what as many steps lead to. -/
theorem current_iterate_advance (stream : TokenStream) (steps : Nat) :
    (advance^[steps] stream).current = stream.peek steps := by
  induction steps generalizing stream with
  | zero => rfl
  | succ steps inductionHypothesis =>
      rw [Function.iterate_succ_apply, inductionHypothesis, peek_advance]

/-! ## Streams over a list -/

/-- The streams that operations make of the stream at the start of a list, one after the other and
whether or not each of them succeeds. -/
inductive IsReached (source : Text) (tokens : List Token) : TokenStream → Prop
  | start :
      IsReached source tokens (ofTokens source tokens)
  | step {stream : TokenStream} {α : Type} {operation : Reading ParseError α}
      (reached : IsReached source tokens stream)
      (composed : operation.IsComposed) :
      IsReached source tokens (operation.streamAfter stream)

/-- A stream that shows a list of tokens of a source from some position on. -/
structure IsView (source : Text) (tokens : List Token) (stream : TokenStream) : Prop where
  source_eq : stream.source = source
  tokens_eq : stream.tokens.toList = tokens
  endMark_eq : stream.endMark = endMarkOf source tokens
  position_le : stream.position ≤ tokens.length
  isAtEnd_iff : stream.isAtEnd ↔ stream.position = tokens.length
  remaining_eq : stream.remaining = tokens.drop stream.position
  /-- What lies ahead are the tokens of the list, and then the end mark. -/
  peek_eq : ∀ places, stream.peek places = tokens.getD (stream.position + places) stream.endMark
  /-- A place whose index does not fit in 64 bits is past the end. -/
  peek_of_overflow :
    tokens.length ≤ 2 ^ 64 →
      ∀ places, 2 ^ 64 ≤ stream.position + places → stream.peek places = stream.endMark
  /-- Looking ahead shows what is current after as many steps. -/
  current_iterate_advance :
    ∀ places, (advance^[places] stream).current = stream.peek places
  endMark_kind : stream.endMark.kind = .endOfFile
  endMark_eq_last :
    ∀ last ∈ tokens.getLast?, last.kind = .endOfFile → stream.endMark = last
  length_span_endMark :
    (∀ last ∈ tokens.getLast?, last.kind ≠ .endOfFile) → stream.endMark.span.length = 0

/-- However it is moved, the stream at the start of a list stays in the list. -/
theorem IsReached.exists_seek
    {source : Text}
    {tokens : List Token}
    {stream : TokenStream}
    (reached : IsReached source tokens stream) :
    ∃ position, stream = (ofTokens source tokens).seek position := by
  -- A jump from a stream in the list ends in the list, wherever the stream was before.
  induction reached with
  | start => exact ⟨0, by rw [seek, Nat.zero_min]; rfl⟩
  | @step stream _ operation _ composed inductionHypothesis =>
      obtain ⟨position, rfl⟩ := inductionHypothesis
      rcases composed.jumps ((ofTokens source tokens).seek position) with same | ⟨next, moved⟩
      · exact ⟨position, same⟩
      · exact ⟨next, moved⟩

/-- Every position of a stream over some tokens is a view of them, however far it lies beyond the
end. -/
theorem isView_seek (source : Text) (tokens : List Token) (position : Nat) :
    IsView source tokens ((ofTokens source tokens).seek position) where
  source_eq := rfl
  tokens_eq := rfl
  endMark_eq := rfl
  position_le := Nat.min_le_right position _
  isAtEnd_iff := by
    simp only [isAtEnd, seek, ofTokens, List.size_toArray, decide_eq_true_eq]
    exact ⟨Nat.le_antisymm (Nat.min_le_right _ _), Nat.le_of_eq ∘ Eq.symm⟩
  remaining_eq := rfl
  peek_eq places := by
    simp [peek, seek, ofTokens]
  peek_of_overflow fits places overflow := by
    rw [peek, Array.getElem?_eq_none]
    · rfl
    · exact Nat.le_trans fits overflow
  current_iterate_advance := current_iterate_advance _
  endMark_kind := endMarkOf_kind source tokens
  endMark_eq_last _ := endMarkOf_of_mem_getLast?
  length_span_endMark := length_span_endMarkOf

/-- Whatever operations are made on it, a stream shows an unchanging list from a position in it
on, and then the end mark. -/
theorem isView_of_isReached
    {source : Text}
    {tokens : List Token}
    {stream : TokenStream}
    (reached : IsReached source tokens stream) :
    IsView source tokens stream := by
  obtain ⟨position, rfl⟩ := reached.exists_seek
  exact isView_seek source tokens position

/-- An identifier, an end mark and a dot. -/
def markBeforeDot : List Token :=
  [⟨.identifier, ⟨0, 1⟩, ⟨1, 1⟩, ['a']⟩, ⟨.endOfFile, ⟨2, 0⟩, ⟨1, 3⟩, []⟩,
    ⟨.dot, ⟨1, 1⟩, ⟨1, 2⟩, ['.']⟩]

/-- An attempt that fails past the end, a step, the end mark of the list taken, a jump to far
beyond the end, a search for declarations there, and the end mark of the stream taken. -/
theorem isView_of_isReached_markBeforeDot :
    ∃ stream : TokenStream,
      IsReached "a.".toList markBeforeDot stream ∧ stream.position = 3 ∧
        IsView "a.".toList markBeforeDot stream := by
  have tried : IsReached "a.".toList markBeforeDot _ :=
    .step .start (.attempt (.sequence (.seek 9) fun _ => .expect .identifier))
  have stepped : IsReached "a.".toList markBeforeDot _ := .step tried .advance
  have taken : IsReached "a.".toList markBeforeDot _ := .step stepped (.takeKind .endOfFile)
  have jumped : IsReached "a.".toList markBeforeDot _ := .step taken (.seek (2 ^ 64))
  have searched : IsReached "a.".toList markBeforeDot _ := .step jumped .declaredNames
  have ended : IsReached "a.".toList markBeforeDot _ := .step searched (.takeKind .endOfFile)
  exact ⟨_, ended, by decide +kernel, isView_of_isReached ended⟩

end TokenStream
end SqlLexer
