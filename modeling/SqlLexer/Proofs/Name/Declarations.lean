import SqlLexer.Proofs.Name.Grammar
import SqlLexer.Proofs.TokenStream.Outcome

/-!
# Declarations read from a stream

The reading of declarations moves a position over trivia, tries out readings and returns when
they fail.  It reports what the grammar finds in the tokens ahead.
-/

namespace SqlLexer

open Declarations
open QualifiedName (partValue?)

namespace TokenStream

variable {stream : TokenStream}

/-- A settled stream is at an accepted token exactly if one leads the tokens ahead. -/
theorem IsSettled.behind?_ahead
    (settled : stream.IsSettled)
    {accepts : Token → Bool}
    (rejectsEnd : ∀ token : Token, token.kind = .endOfFile → accepts token = false) :
    behind? accepts stream.ahead =
      if accepts stream.current then some stream.advance.ahead else none := by
  rcases settled.ahead_cases with ⟨isEnd, empty⟩ | ⟨_, split⟩
  · rw [empty, rejectsEnd _ isEnd]
    rfl
  · rw [split, behind?]

/-- A settled stream checks for a keyword where the grammar asks for it. -/
theorem IsSettled.behind?_keyword
    (settled : stream.IsSettled)
    (word : Text) :
    behind? (fun token => token.isKeywordText word) stream.ahead =
      if stream.checkKeyword word then some stream.advance.ahead else none := by
  apply settled.behind?_ahead
  intro token isEnd
  rw [Token.isKeywordText, isEnd]
  rfl

theorem IsSettled.behind?_dot (settled : stream.IsSettled) :
    behind? (fun token => token.kind = .dot) stream.ahead =
      if stream.check .dot then some stream.advance.ahead else none := by
  apply settled.behind?_ahead
  intro token isEnd
  rw [isEnd]
  rfl

/-- The current token of a settled stream is the part that the grammar finds, if it is one. -/
theorem IsSettled.partAt?_ahead (settled : stream.IsSettled) :
    partAt? stream.ahead =
      (partValue? stream.current).map fun value => (value, stream.advance.ahead) := by
  rcases settled.ahead_cases with ⟨isEnd, empty⟩ | ⟨_, split⟩
  · rw [empty, partValue?, isEnd]
    rfl
  · rw [split, partAt?]

end TokenStream

/-! ## The guard and the name -/

/-- A keyword in front of a reading leads to the tokens behind the keyword. -/
theorem Reading.Sees.keyword
    {α : Type}
    {next : Reading ParseError α}
    {find? : List Token → Option (α × List Token)}
    (sees : Sees next find?)
    (word : Text) :
    Sees (do Reading.skipTrivia; let _ ← Reading.expectKeyword word; next) fun tokens =>
      (behind? (fun token => token.isKeywordText word) tokens).bind find? := by
  refine sees_skipTrivia fun stream settled => ?_
  rw [settled.behind?_keyword]
  cases found : stream.checkKeyword word with
  | true =>
      rw [seen_congr (bind_of_ok (expectKeyword_of_checkKeyword found) _)]
      exact sees stream.advance
  | false => exact seen_of_error (bind_of_error (expectKeyword_of_not_checkKeyword found) _)

namespace DeclaredName

/-- The reader of a guard takes what the grammar takes for one. -/
theorem sees_readGuard :
    Reading.Sees readGuard fun tokens => (afterGuard? tokens).map fun rest => ((), rest) := by
  have sees := (((Reading.sees_pure ()).keyword "EXISTS".toList).keyword "NOT".toList).keyword
    "IF".toList
  intro stream
  refine (sees stream).trans ?_
  dsimp only [afterGuard?, bind]
  cases behind? (fun token => token.isKeywordText "IF".toList) stream.ahead with
  | none => rfl
  | some afterIf =>
      dsimp only [Option.bind_some]
      cases behind? (fun token => token.isKeywordText "NOT".toList) afterIf with
      | none => rfl
      | some afterNot =>
          dsimp only [Option.bind_some]
          cases behind? (fun token => token.isKeywordText "EXISTS".toList) afterNot <;> rfl

end DeclaredName

namespace QualifiedName

variable {stream : TokenStream}

theorem readPart_of_some
    {value : Text}
    (isPart : partValue? stream.current = some value) :
    readPart stream = .ok value stream.advance := by
  unfold readPart
  rw [Reading.current_bind, isPart]
  rfl

/-- Any other token is left where it is, and the error asks for an identifier. -/
theorem readPart_of_none
    (noPart : partValue? stream.current = none) :
    readPart stream = .error (stream.unexpected "identifier".toList) stream := by
  unfold readPart
  rw [Reading.current_bind, noPart]
  rfl

/-- A part in front of a reading leads to the tokens behind the part. -/
theorem sees_part
    {α : Type}
    {next : Text → Reading ParseError α}
    {find? : Text → List Token → Option (α × List Token)}
    (sees : ∀ value, Reading.Sees (next value) (find? value)) :
    Reading.Sees (do Reading.skipTrivia; let value ← readPart; next value) fun tokens =>
      (partAt? tokens).bind fun part => find? part.1 part.2 := by
  refine Reading.sees_skipTrivia fun stream settled => ?_
  rw [settled.partAt?_ahead]
  cases isPart : partValue? stream.current with
  | some value =>
      rw [Reading.seen_congr (Reading.bind_of_ok (readPart_of_some isPart) _)]
      exact sees value stream.advance
  | none => exact Reading.seen_of_error (Reading.bind_of_error (readPart_of_none isPart) _)

/-- Behind the first part, a dot leads to the second part; otherwise the name is complete. -/
theorem sees_afterFirst (first : Text) :
    Reading.Sees
      (do
        if ← takeDot then
          Reading.skipTrivia
          let second ← readPart
          return (⟨some first, second⟩ : QualifiedName)
        else
          return ⟨none, first⟩)
      fun tokens =>
        match behind? (fun token => token.kind = .dot) tokens with
        | none => some (⟨none, first⟩, tokens)
        | some afterDot =>
            (partAt? afterDot).bind fun part => some (⟨some first, part.1⟩, part.2) := by
  intro stream
  have settled := stream.isSettled_skipTrivia
  have secondPart := sees_part fun second =>
    Reading.sees_pure (⟨some first, second⟩ : QualifiedName)
  have outcome := takeDot_eq stream
  dsimp only
  rw [← stream.ahead_skipTrivia, settled.behind?_dot]
  cases isDot : stream.skipTrivia.check .dot with
  | true =>
      rw [isDot, if_pos rfl] at outcome
      rw [Reading.seen_congr (Reading.bind_of_ok outcome _)]
      exact secondPart stream.skipTrivia.advance
  | false =>
      have back := TokenStream.ahead_seek stream.leadsTo_skipTrivia.tokens_eq
      rw [isDot, if_neg Bool.false_ne_true] at outcome
      rw [Reading.seen_congr (Reading.bind_of_ok outcome _), TokenStream.ahead_skipTrivia, ← back]
      rfl

/-- The reader of names takes the name that the grammar finds ahead. -/
theorem sees_read : Reading.Sees read nameAt? :=
  sees_part sees_afterFirst

end QualifiedName

/-! ## Declarations -/

namespace DeclaredName

/-- An attempt finds what the reading finds, and keeps the tokens ahead where that is nothing. -/
theorem tryRead_of_sees
    {α : Type}
    {reading : Reading ParseError α}
    {find? : List Token → Option (α × List Token)}
    (sees : Reading.Sees reading find?)
    (forward : Reading.Forward reading)
    (stream : TokenStream) :
    ∃ after, tryRead reading stream = ((find? stream.ahead).map Prod.fst, after) ∧
      after.ahead = ((find? stream.ahead).map Prod.snd).getD stream.ahead := by
  rw [← sees stream, Reading.seen, tryRead]
  cases outcome : reading stream with
  | ok value after =>
      rw [Reading.attempt_of_ok outcome]
      exact ⟨after, rfl, rfl⟩
  | error error stopped =>
      have reached := forward stream
      rw [Reading.streamAfter, outcome] at reached
      rw [Reading.attempt, outcome]
      exact ⟨stopped.seek stream.position, rfl, TokenStream.ahead_seek reached.tokens_eq⟩

/-- The reader of a target goes by the grammar: it gives the same declaration and leaves the same
tokens ahead, also where it goes back on a failure. -/
theorem targetAt_ahead (object : Text) (stream : TokenStream) :
    targetAt object stream.ahead =
      ((readTarget object stream).1, (readTarget object stream).2.ahead) := by
  have target := TokenStream.ahead_skipKeywords afterObject stream
  obtain ⟨afterGuard, guardFound, guardAhead⟩ :=
    tryRead_of_sees sees_readGuard forward_readGuard (stream.skipKeywords afterObject)
  obtain ⟨afterName, nameFound, nameAhead⟩ :=
    tryRead_of_sees QualifiedName.sees_read QualifiedName.forward_read afterGuard.skipTrivia
  have settled := afterGuard.isSettled_skipTrivia
  rw [target] at guardFound guardAhead
  unfold targetAt readTarget isOneOf
  dsimp only
  rw [guardFound]
  dsimp only
  rw [nameFound]
  generalize stream.ahead.dropWhile (fun token => afterObject.any token.isKeywordText) = behind
    at guardAhead ⊢
  have named : (afterGuard? behind).getD behind = afterGuard.skipTrivia.ahead := by
    rw [TokenStream.ahead_skipTrivia, guardAhead]
    cases afterGuard? behind <;> rfl
  rw [named]
  cases isName : nameAt? afterGuard.skipTrivia.ahead with
  | none =>
      rw [isName] at nameAhead
      rw [nameAhead]
      split
      · rename_i found
        cases found
      · rfl
  | some found =>
      obtain ⟨name, rest⟩ := found
      rw [isName] at nameAhead
      rcases settled.ahead_cases with ⟨_, empty⟩ | ⟨_, split⟩
      · rw [empty] at isName
        cases isName
      · rw [split, nameAhead]
        cases afterGuard? behind <;> rfl

/-- The reader behind CREATE goes by the grammar, from the kind of object to the target. -/
theorem objectAt_ahead (stream : TokenStream) :
    objectAt stream.ahead = ((readObject stream).1, (readObject stream).2.ahead) := by
  have object := TokenStream.ahead_skipKeywords modifiers stream
  have settled := TokenStream.isSettled_skipKeywords modifiers stream
  unfold objectAt readObject isOneOf
  dsimp only
  rw [← object]
  generalize stream.skipKeywords modifiers = atObject at settled ⊢
  rcases settled.ahead_cases with ⟨isEnd, empty⟩ | ⟨_, split⟩
  · have noObject : objectKeywords.find? atObject.checkKeyword = none := by
      apply List.find?_eq_none.mpr
      intro word _
      simp [TokenStream.not_checkKeyword_of_endOfFile isEnd]
    rw [noObject]
    dsimp only
    rw [empty]
  · have sameFind : objectKeywords.find? atObject.checkKeyword =
        objectKeywords.find? atObject.current.isKeywordText :=
      rfl
    rw [sameFind]
    cases found : objectKeywords.find? atObject.current.isKeywordText with
    | none =>
        rw [split]
        dsimp only
        rw [found]
    | some object =>
        rw [split]
        dsimp only
        rw [found]
        exact targetAt_ahead object atObject.advance

end DeclaredName

/-- The declarations read from a stream, whatever its tokens and its position, are those that the
grammar finds in the tokens ahead. -/
theorem declaredNames_eq_declarations (stream : TokenStream) :
    (declaredNames stream).1 = declarations stream.ahead := by
  fun_induction declaredNames stream with
  | case1 stream isEnd =>
      have noneAhead : stream.skipTrivia.ahead = [] :=
        TokenStream.ahead_of_endOfFile (of_decide_eq_true isEnd)
      rw [← stream.ahead_skipTrivia, noneAhead, declarations]
  | case2 stream notEnd isCreate declaration others inductionHypothesis =>
      rcases stream.isSettled_skipTrivia.ahead_cases with ⟨isEnd, _⟩ | ⟨_, split⟩
      · exact absurd (decide_eq_true isEnd) notEnd
      · rw [TokenStream.checkKeyword] at isCreate
        rw [← stream.ahead_skipTrivia, split, declarations, if_pos isCreate,
          DeclaredName.objectAt_ahead, ← inductionHypothesis]
  | case3 stream notEnd notCreate inductionHypothesis =>
      rcases stream.isSettled_skipTrivia.ahead_cases with ⟨isEnd, _⟩ | ⟨_, split⟩
      · exact absurd (decide_eq_true isEnd) notEnd
      · rw [TokenStream.checkKeyword] at notCreate
        rw [← stream.ahead_skipTrivia, split, declarations, if_neg notCreate,
          inductionHypothesis]

/-- A guard that breaks off is read again as a name. -/
example :
    declarations (TokenStream.ofTokens [] (tokensOf "CREATE SCHEMA IF NOT".toList)).ahead =
      [⟨"SCHEMA".toList, ⟨none, "if".toList⟩, false, ⟨1, 15⟩⟩] := by
  decide +kernel

end SqlLexer
