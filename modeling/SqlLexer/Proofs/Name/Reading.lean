import SqlLexer.Proofs.Name.Declarations
import SqlLexer.Proofs.TokenStream.Index

/-!
# How a name is read

The first three significant tokens from the position on decide whether a name is read, which name
that is and where the stream is left.  Where there is no name, the token at which it breaks off
decides what is reported.
-/

namespace SqlLexer
namespace QualifiedName

/-- The kinds of tokens that are parts of names. -/
def partKinds : List Kind :=
  [.identifier, .keyword, .quotedIdentifier]

theorem exists_partValue?_of_mem
    {token : Token}
    (isPart : token.kind ∈ partKinds) :
    ∃ value, partValue? token = some value := by
  simp only [partKinds, List.mem_cons, List.not_mem_nil, or_false] at isPart
  rcases isPart with kind | kind | kind <;> rw [partValue?, kind] <;> exact ⟨_, rfl⟩

theorem partValue?_of_notMem
    {token : Token}
    (noPart : token.kind ∉ partKinds) :
    partValue? token = none := by
  unfold partValue?
  split <;> simp_all [partKinds]

/-- The error about a token that is no part of a name. -/
def errorAt (stream : TokenStream) (index : Nat) : ParseError :=
  let token := stream.tokenAt index
  .atToken token <|
    if token.kind = .endOfFile then .unexpectedEnd "identifier".toList
    else .unexpectedToken "identifier".toList (token.span.slice stream.source)

/-- No name is read because of a token, and the stream is left there, at the end of its list at
most. -/
structure FailsAt (stream : TokenStream) (index : Nat) : Prop where
  inside : index ≤ stream.tokens.size
  read_eq : read stream = .error (errorAt stream index) (stream.moveTo index)

/-- What becomes of the first significant tokens when a name is read. -/
structure IsRead (stream : TokenStream) : Prop where
  /-- A name is a part, and where a dot follows it, two parts. -/
  succeeds_iff :
    (∃ name after, read stream = .ok name after) ↔
      (stream.significant 0).kind ∈ partKinds ∧
        ((stream.significant 1).kind ≠ .dot ∨
          (stream.significant 1).kind = .dot ∧ (stream.significant 2).kind ∈ partKinds)
  /-- Without a dot the stream is left just behind the part, in front of any trivia. -/
  unqualified :
    (stream.significant 0).kind ∈ partKinds →
    (stream.significant 1).kind ≠ .dot →
      ∃ name, partValue? (stream.significant 0) = some name ∧
        read stream = .ok ⟨none, name⟩ (stream.moveTo (stream.significantIndex 0 + 1))
  /-- With a dot the stream is left just behind the second part. -/
  qualified :
    (stream.significant 0).kind ∈ partKinds →
    (stream.significant 1).kind = .dot →
    (stream.significant 2).kind ∈ partKinds →
      ∃ schema name, partValue? (stream.significant 0) = some schema ∧
        partValue? (stream.significant 2) = some name ∧
        read stream =
          .ok ⟨some schema, name⟩ (stream.moveTo (stream.significantIndex 2 + 1))
  noFirst :
    (stream.significant 0).kind ∉ partKinds →
      FailsAt stream (stream.significantIndex 0)
  noSecond :
    (stream.significant 0).kind ∈ partKinds →
    (stream.significant 1).kind = .dot →
    (stream.significant 2).kind ∉ partKinds →
      FailsAt stream (stream.significantIndex 2)

variable {stream : TokenStream} {index : Nat}

/-! ## The steps of a reading -/

theorem kind_ne_endOfFile_of_mem
    {token : Token}
    (isPart : token.kind ∈ partKinds) :
    token.kind ≠ .endOfFile := by
  intro isEnd
  rw [isEnd] at isPart
  exact absurd isPart (by decide)

theorem readPart_of_mem (isPart : (stream.tokenAt index).kind ∈ partKinds) :
    ∃ value, partValue? (stream.tokenAt index) = some value ∧
      readPart (stream.moveTo index) = .ok value (stream.moveTo (index + 1)) := by
  obtain ⟨value, isValue⟩ := exists_partValue?_of_mem isPart
  refine ⟨value, isValue, ?_⟩
  rw [← TokenStream.current_moveTo] at isValue
  rw [readPart_of_some isValue, TokenStream.advance_moveTo (kind_ne_endOfFile_of_mem isPart)]

/-- Where no part of a name stands, the error is about the token that does. -/
theorem readPart_of_notMem (noPart : (stream.tokenAt index).kind ∉ partKinds) :
    readPart (stream.moveTo index) = .error (errorAt stream index) (stream.moveTo index) := by
  rw [← TokenStream.current_moveTo] at noPart
  rw [readPart_of_none (partValue?_of_notMem noPart)]
  simp only [TokenStream.unexpected, TokenStream.check, decide_eq_true_eq]
  rfl

/-- A dot ahead is taken together with the trivia in front of it. -/
theorem takeDot_of_eq
    (isDot : (stream.tokenAt (stream.firstFrom index Kind.isSignificant)).kind = .dot) :
    takeDot (stream.moveTo index) =
      .ok true (stream.moveTo (stream.firstFrom index Kind.isSignificant + 1)) := by
  have notEnd : (stream.tokenAt (stream.firstFrom index Kind.isSignificant)).kind ≠ .endOfFile := by
    rw [isDot]
    decide
  rw [takeDot_eq, TokenStream.skipTrivia_moveTo, TokenStream.check_moveTo,
    if_pos (decide_eq_true isDot), TokenStream.advance_moveTo notEnd]

/-- Without a dot, the trivia that were passed over are given back. -/
theorem takeDot_of_ne
    (inside : index ≤ stream.tokens.size)
    (noDot : (stream.tokenAt (stream.firstFrom index Kind.isSignificant)).kind ≠ .dot) :
    takeDot (stream.moveTo index) = .ok false (stream.moveTo index) := by
  have back : (stream.moveTo (stream.firstFrom index Kind.isSignificant)).seek index =
      stream.moveTo index := by
    simp only [TokenStream.seek, TokenStream.moveTo, Nat.min_eq_left inside]
  rw [takeDot_eq, TokenStream.skipTrivia_moveTo, TokenStream.check_moveTo,
    if_neg (mt of_decide_eq_true noDot)]
  exact congrArg _ back

/-! ## The name -/

/-- A reading fails at the first significant token if that is no part of a name. -/
theorem failsAt_first
    (inside : stream.position ≤ stream.tokens.size)
    (noPart : (stream.significant 0).kind ∉ partKinds) :
    FailsAt stream (stream.significantIndex 0) := by
  refine ⟨TokenStream.firstFrom_le_size inside, ?_⟩
  unfold read
  rw [Reading.skipTrivia_bind, TokenStream.skipTrivia_eq]
  exact Reading.bind_of_error (readPart_of_notMem noPart) _

/-- Behind the first part the reading goes on as a dot tells. -/
theorem read_of_mem
    {hasDot : Bool}
    {after : TokenStream}
    (isPart : (stream.significant 0).kind ∈ partKinds)
    (dotTaken : takeDot (stream.moveTo (stream.significantIndex 0 + 1)) = .ok hasDot after) :
    ∃ first, partValue? (stream.significant 0) = some first ∧
      read stream =
        (if hasDot then do
          Reading.skipTrivia
          let second ← readPart
          return ⟨some first, second⟩
        else
          return ⟨none, first⟩ : Reading ParseError QualifiedName) after := by
  obtain ⟨first, isFirst, firstRead⟩ := readPart_of_mem isPart
  refine ⟨first, isFirst, ?_⟩
  unfold read
  rw [Reading.skipTrivia_bind, TokenStream.skipTrivia_eq]
  exact (Reading.bind_of_ok firstRead _).trans (Reading.bind_of_ok dotTaken _)

/-- A part without a dot behind it is a name without a schema. -/
theorem read_unqualified
    (isPart : (stream.significant 0).kind ∈ partKinds)
    (noDot : (stream.significant 1).kind ≠ .dot) :
    ∃ name, partValue? (stream.significant 0) = some name ∧
      read stream = .ok ⟨none, name⟩ (stream.moveTo (stream.significantIndex 0 + 1)) := by
  have within := TokenStream.lt_size_of_kind_ne (kind_ne_endOfFile_of_mem isPart)
  exact read_of_mem isPart (takeDot_of_ne within noDot)

/-- A part, a dot and another part are a schema and a name. -/
theorem read_qualified
    (isPart : (stream.significant 0).kind ∈ partKinds)
    (isDot : (stream.significant 1).kind = .dot)
    (isSecond : (stream.significant 2).kind ∈ partKinds) :
    ∃ schema name, partValue? (stream.significant 0) = some schema ∧
      partValue? (stream.significant 2) = some name ∧
      read stream =
        .ok ⟨some schema, name⟩ (stream.moveTo (stream.significantIndex 2 + 1)) := by
  obtain ⟨schema, isSchema, readEq⟩ := read_of_mem isPart (takeDot_of_eq isDot)
  obtain ⟨name, isName, secondRead⟩ := readPart_of_mem isSecond
  refine ⟨schema, name, isSchema, isName, readEq.trans ?_⟩
  rw [if_pos rfl, Reading.skipTrivia_bind, TokenStream.skipTrivia_moveTo]
  exact Reading.bind_of_ok secondRead _

/-- A reading fails behind a dot if no part of a name follows. -/
theorem failsAt_second
    (isPart : (stream.significant 0).kind ∈ partKinds)
    (isDot : (stream.significant 1).kind = .dot)
    (noPart : (stream.significant 2).kind ∉ partKinds) :
    FailsAt stream (stream.significantIndex 2) := by
  obtain ⟨schema, _, readEq⟩ := read_of_mem isPart (takeDot_of_eq isDot)
  have within : stream.significantIndex 1 < stream.tokens.size := by
    apply TokenStream.lt_size_of_kind_ne
    change (stream.significant 1).kind ≠ .endOfFile
    rw [isDot]
    decide
  refine ⟨TokenStream.firstFrom_le_size within, readEq.trans ?_⟩
  rw [if_pos rfl, Reading.skipTrivia_bind, TokenStream.skipTrivia_moveTo]
  exact Reading.bind_of_error (readPart_of_notMem noPart) _

theorem FailsAt.read_ne_ok
    (fails : FailsAt stream index)
    (name : QualifiedName)
    (after : TokenStream) :
    read stream ≠ .ok name after := by
  rw [fails.read_eq]
  nofun

theorem isRead_of_position_le
    (inside : stream.position ≤ stream.tokens.size) :
    IsRead stream where
  succeeds_iff := by
    constructor
    · rintro ⟨name, after, succeeds⟩
      have isPart := Decidable.of_not_not fun noPart =>
        (failsAt_first inside noPart).read_ne_ok name after succeeds
      by_cases isDot : (stream.significant 1).kind = .dot
      · have isSecond := Decidable.of_not_not fun noPart =>
          (failsAt_second isPart isDot noPart).read_ne_ok name after succeeds
        exact ⟨isPart, .inr ⟨isDot, isSecond⟩⟩
      · exact ⟨isPart, .inl isDot⟩
    · rintro ⟨isPart, noDot | ⟨isDot, isSecond⟩⟩
      · obtain ⟨_, _, readEq⟩ := read_unqualified isPart noDot
        exact ⟨_, _, readEq⟩
      · obtain ⟨_, _, _, _, readEq⟩ := read_qualified isPart isDot isSecond
        exact ⟨_, _, readEq⟩
  unqualified := read_unqualified
  qualified := read_qualified
  noFirst := failsAt_first inside
  noSecond := failsAt_second

end QualifiedName
end SqlLexer
