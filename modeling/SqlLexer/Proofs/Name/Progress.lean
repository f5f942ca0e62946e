import Mathlib.Data.List.Forall2
import SqlLexer.Name.Declared
import SqlLexer.Proofs.Name.Reading
import SqlLexer.Proofs.TokenStream.Passing

/-!
# Progress of a search for declarations

A search for declarations tries out guards and names and goes back where they fail.  On the whole
it only moves on.  It stops at the first end mark, and it reports names in the order of the tokens
at which it finds them, each of which lies behind the one before.
-/

namespace SqlLexer

open QualifiedName (partValue?)

namespace QualifiedName

variable {stream : TokenStream}

/-- A part of a name is no end mark. -/
theorem passing_readPart : Reading.Passing readPart := by
  intro stream
  by_cases isPart : stream.current.kind ∈ partKinds
  · obtain ⟨value, isValue⟩ := exists_partValue?_of_mem isPart
    rw [Reading.streamAfter, readPart_of_some isValue]
    exact TokenStream.passes_advance (kind_ne_endOfFile_of_mem isPart)
  · rw [Reading.streamAfter, readPart_of_none (partValue?_of_notMem isPart)]
    exact TokenStream.Passes.refl stream

theorem passing_takeDot : Reading.Passing takeDot := by
  intro stream
  have skipped := stream.passes_skipTrivia
  rw [Reading.streamAfter, takeDot_eq]
  cases isDot : stream.skipTrivia.check .dot with
  | true =>
      have notEnd : stream.skipTrivia.current.kind ≠ .endOfFile := by
        rw [of_decide_eq_true isDot]
        decide
      exact skipped.trans (TokenStream.passes_advance notEnd)
  | false => exact skipped.seek_back

/-- No end mark lies within a name. -/
theorem passing_read : Reading.Passing read := by
  unfold read
  refine Reading.passing_bind Reading.passing_skipTrivia fun _ => ?_
  refine Reading.passing_bind passing_readPart fun first => ?_
  refine Reading.passing_bind passing_takeDot fun hasDot => ?_
  split
  · refine Reading.passing_bind Reading.passing_skipTrivia fun _ => ?_
    refine Reading.passing_bind passing_readPart fun second => ?_
    exact Reading.passing_pure _
  · exact Reading.passing_pure _

/-- A name that is read begins with the first significant token, behind which the stream is left. -/
theorem significant_of_read_eq_ok
    {name : QualifiedName}
    {after : TokenStream}
    (inside : stream.position ≤ stream.tokens.size)
    (succeeds : read stream = .ok name after) :
    partValue? (stream.significant 0) = some (name.schema.getD name.name) ∧
      stream.significantIndex 0 < after.position := by
  obtain ⟨isPart, noDot | ⟨isDot, isSecond⟩⟩ :=
    (isRead_of_position_le inside).succeeds_iff.mp ⟨name, after, succeeds⟩
  · obtain ⟨first, isFirst, readEq⟩ := read_unqualified isPart noDot
    rw [succeeds] at readEq
    cases readEq
    exact ⟨isFirst, Nat.lt_succ_self _⟩
  · obtain ⟨schema, second, isSchema, _, readEq⟩ := read_qualified isPart isDot isSecond
    rw [succeeds] at readEq
    cases readEq
    have dotBehind : stream.significantIndex 0 + 1 ≤ stream.significantIndex 1 :=
      TokenStream.le_firstFrom
    have nameBehind : stream.significantIndex 1 + 1 ≤ stream.significantIndex 2 :=
      TokenStream.le_firstFrom
    refine ⟨isSchema, ?_⟩
    change stream.significantIndex 0 < stream.significantIndex 2 + 1
    omega

end QualifiedName

namespace DeclaredName

/-- A declaration that stands at a token, with which its name begins. -/
structure IsFoundAt (declared : DeclaredName) (token : Token) : Prop where
  location : declared.location = token.location
  firstPart : partValue? token = some (declared.name.schema.getD declared.name.name)

/-- Declarations that are found one behind the other between two places of a list. -/
structure AreFound
    (stream : TokenStream)
    (start stop : Nat)
    (places : List Nat)
    (names : List DeclaredName) : Prop where
  ascending : places.Pairwise (· < ·)
  between : ∀ place ∈ places, start ≤ place ∧ place < stop
  found :
    List.Forall₂ (fun declared place => declared.IsFoundAt (stream.tokenAt place)) names places

namespace AreFound

variable {stream : TokenStream} {start middle stop : Nat} {places others : List Nat}
  {names more : List DeclaredName}

theorem nil (stream : TokenStream) (start stop : Nat) : AreFound stream start stop [] [] :=
  ⟨.nil, List.forall_mem_nil _, .nil⟩

theorem single
    {declared : DeclaredName}
    (behind : start < stop)
    (found : declared.IsFoundAt (stream.tokenAt start)) :
    AreFound stream start stop [start] [declared] :=
  ⟨List.pairwise_singleton _ _, by simpa using behind, .cons found .nil⟩

/-- Moving a stream leaves its tokens where they are. -/
theorem of_leadsTo
    {after : TokenStream}
    (leads : stream.LeadsTo after)
    (areFound : AreFound after start stop places names) :
    AreFound stream start stop places names where
  ascending := areFound.ascending
  between := areFound.between
  found := by simpa only [leads.tokenAt_eq] using areFound.found

/-- Declarations found up to a place and those found from there on are found in order. -/
theorem append
    (first : AreFound stream start middle places names)
    (second : AreFound stream middle stop others more)
    (startLe : start ≤ middle)
    (leStop : middle ≤ stop) :
    AreFound stream start stop (places ++ others) (names ++ more) where
  ascending := by
    refine List.pairwise_append.mpr ⟨first.ascending, second.ascending, ?_⟩
    intro place inFirst other inSecond
    exact Nat.lt_of_lt_of_le (first.between place inFirst).2 (second.between other inSecond).1
  between := by
    refine List.forall_mem_append.mpr ⟨fun place inFirst => ?_, fun place inSecond => ?_⟩
    · obtain ⟨behind, ahead⟩ := first.between place inFirst
      exact ⟨behind, Nat.lt_of_lt_of_le ahead leStop⟩
    · obtain ⟨behind, ahead⟩ := second.between place inSecond
      exact ⟨Nat.le_trans startLe behind, ahead⟩
  found := List.rel_append first.found second.found

end AreFound

/-- How a reader of declarations leaves a stream, and what it reports. -/
structure Finds
    (before : TokenStream)
    (names : List DeclaredName)
    (after : TokenStream) : Prop where
  passes : before.Passes after
  places : before.position ≤ before.tokens.size →
    ∃ places, AreFound before before.position after.position places names

namespace Finds

variable {first second third : TokenStream} {names more : List DeclaredName}

/-- A move alone finds nothing. -/
theorem of_passes (passes : first.Passes second) : Finds first [] second :=
  ⟨passes, fun _ => ⟨[], .nil _ _ _⟩⟩

theorem trans
    (before : Finds first names second)
    (after : Finds second more third) :
    Finds first (names ++ more) third where
  passes := before.passes.trans after.passes
  places := by
    intro inside
    have reached := before.passes.position_le inside
    have ended := after.passes.position_le reached.2
    obtain ⟨places, areFound⟩ := before.places inside
    obtain ⟨others, areMore⟩ := after.places reached.2
    have areMoreHere := areMore.of_leadsTo before.passes.toLeadsTo
    exact ⟨places ++ others, areFound.append areMoreHere reached.1 ended.1⟩

/-- What is found behind a move is found. -/
theorem behind
    (passes : first.Passes second)
    (finds : Finds second names third) :
    Finds first names third :=
  (of_passes passes).trans finds

end Finds

theorem passing_readGuard : Reading.Passing readGuard := by
  unfold readGuard
  refine Reading.passing_bind Reading.passing_skipTrivia fun _ => ?_
  refine Reading.passing_bind (Reading.passing_expectKeyword _) fun _ => ?_
  refine Reading.passing_bind Reading.passing_skipTrivia fun _ => ?_
  refine Reading.passing_bind (Reading.passing_expectKeyword _) fun _ => ?_
  refine Reading.passing_bind Reading.passing_skipTrivia fun _ => ?_
  refine Reading.passing_bind (Reading.passing_expectKeyword _) fun _ => ?_
  exact Reading.passing_pure ()

/-- A reading that is given up passes over nothing. -/
theorem passes_tryRead
    {α : Type}
    {reading : Reading ParseError α}
    (passing : Reading.Passing reading)
    (stream : TokenStream) :
    stream.Passes (tryRead reading stream).2 := by
  rw [snd_tryRead]
  exact Reading.passing_attempt passing stream

/-- A name that is tried out at a significant token is found there. -/
theorem finds_tryRead_read
    {stream : TokenStream}
    (settled : stream.IsSettled)
    (object : Text)
    (guarded : Bool) :
    Finds stream
      ((tryRead QualifiedName.read stream).1.map
        (⟨object, ·, guarded, stream.current.location⟩)).toList
      (tryRead QualifiedName.read stream).2 := by
  have passes := passes_tryRead QualifiedName.passing_read stream
  refine ⟨passes, fun inside => ?_⟩
  unfold tryRead
  cases outcome : QualifiedName.read stream with
  | error error stopped =>
      rw [Reading.attempt, outcome]
      exact ⟨[], .nil _ _ _⟩
  | ok name after =>
      rw [Reading.attempt_of_ok outcome]
      obtain ⟨firstPart, behind⟩ := QualifiedName.significant_of_read_eq_ok inside outcome
      have here : stream.significantIndex 0 = stream.position := by
        refine TokenStream.firstFrom_of_wanted rfl ?_
        rw [Kind.isSignificant, ← TokenStream.current_eq_tokenAt, settled]
        rfl
      rw [TokenStream.significant, here] at firstPart
      rw [here] at behind
      exact ⟨[stream.position], .single behind ⟨rfl, firstPart⟩⟩

/-- A target is found at its first token, and nothing is found where its name is missing. -/
theorem finds_readTarget (object : Text) (stream : TokenStream) :
    Finds stream (readTarget object stream).1.toList (readTarget object stream).2 := by
  unfold readTarget
  dsimp only
  refine .behind ?_ (finds_tryRead_read (TokenStream.isSettled_skipTrivia _) object _)
  exact (TokenStream.passes_skipKeywords afterObject stream).trans <|
    (passes_tryRead passing_readGuard _).trans (TokenStream.passes_skipTrivia _)

/-- Behind CREATE, a declaration is found or none. -/
theorem finds_readObject (stream : TokenStream) :
    Finds stream (readObject stream).1.toList (readObject stream).2 := by
  have atObject := TokenStream.passes_skipKeywords modifiers stream
  unfold readObject
  dsimp only
  split
  · rename_i object isObject
    have notEnd := TokenStream.kind_ne_endOfFile_of_checkKeyword (List.find?_some isObject)
    refine .behind ?_ (finds_readTarget object _)
    exact atObject.trans (TokenStream.passes_advance notEnd)
  · exact .of_passes atObject

end DeclaredName

/-! ## The search -/

open DeclaredName (Finds AreFound)

/-- The declarations of a stream are found one behind the other, up to where the reading ends. -/
theorem finds_declaredNames (stream : TokenStream) :
    Finds stream (declaredNames stream).1 (declaredNames stream).2 := by
  fun_induction declaredNames stream with
  | case1 stream isEnd => exact .of_passes stream.passes_skipTrivia
  | case2 stream notEnd isCreate declaration others inductionHypothesis =>
      -- The search goes on where the declaration ended or broke off, which is behind the keyword
      -- and behind the token at which the declaration was found.
      have notEnd := TokenStream.kind_ne_endOfFile_of_checkKeyword isCreate
      refine .behind ?_ ((DeclaredName.finds_readObject _).trans inductionHypothesis)
      exact stream.passes_skipTrivia.trans (TokenStream.passes_advance notEnd)
  | case3 stream notEnd notCreate inductionHypothesis =>
      refine .behind ?_ inductionHypothesis
      exact stream.passes_skipTrivia.trans <| TokenStream.passes_advance fun isEnd =>
        notEnd (decide_eq_true isEnd)

/-- The reading ends at an end mark and nowhere else. -/
theorem kind_current_declaredNames (stream : TokenStream) :
    (declaredNames stream).2.current.kind = .endOfFile := by
  fun_induction declaredNames stream with
  | case1 stream isEnd => exact of_decide_eq_true isEnd
  | case2 stream notEnd isCreate declaration others inductionHypothesis =>
      exact inductionHypothesis
  | case3 stream notEnd notCreate inductionHypothesis => exact inductionHypothesis

/-- How a search for declarations ends. -/
structure IsSearched
    (stream : TokenStream)
    (names : List DeclaredName)
    (after : TokenStream) : Prop where
  /-- The stream is only moved, to the first end mark from its position on or to the end of the
  list where there is none. -/
  stops : after = stream.moveTo (stream.firstFrom stream.position fun kind => kind = .endOfFile)
  /-- The names stand at tokens that were passed, one behind the other. -/
  places : ∃ places, AreFound stream stream.position after.position places names

theorem isSearched_of_position_le
    {stream : TokenStream}
    (inside : stream.position ≤ stream.tokens.size) :
    IsSearched stream (declaredNames stream).1 (declaredNames stream).2 where
  stops := by
    obtain ⟨passes, _⟩ := finds_declaredNames stream
    have isEnd : (stream.tokenAt (declaredNames stream).2.position).kind = .endOfFile := by
      rw [← passes.tokenAt_eq]
      exact kind_current_declaredNames stream
    have stop : stream.firstFrom stream.position (fun kind => kind = .endOfFile) =
        (declaredNames stream).2.position := by
      refine TokenStream.firstFrom_eq rfl (passes.position_le inside).1 (decide_eq_true isEnd) ?_
      intro index behind ahead
      exact decide_eq_false (passes.noMark index behind ahead)
    rw [stop]
    exact passes.eq_moveTo
  places := (finds_declaredNames stream).places inside

/-- From every position in every list of tokens, a search for declarations stops at the first end
mark and reports its names in the order in which they stand between the two. -/
theorem isSearched_declaredNames
    (source : Text)
    (tokens : List Token)
    (start : Nat) :
    IsSearched ((TokenStream.ofTokens source tokens).seek start)
      (declaredNames ((TokenStream.ofTokens source tokens).seek start)).1
      (declaredNames ((TokenStream.ofTokens source tokens).seek start)).2 :=
  isSearched_of_position_le (Nat.min_le_right _ _)

end SqlLexer
