import SqlLexer.Proofs.Name.Declarations
import SqlLexer.Proofs.Placement

/-!
# Reading one statement

The declarations of a stream are read one token or one statement at a time.  What is read next,
and where the reading goes on, depends on the tokens ahead and on nothing else.
-/

namespace SqlLexer

/-- The significant tokens of a list up to its first end mark. -/
def Token.visible (tokens : List Token) : List Token :=
  (tokens.takeWhile fun token => token.kind ≠ .endOfFile).filter fun token =>
    token.kind.isSignificant

/-- An end mark is significant itself, so trivia may be left out first. -/
theorem Token.visible_eq_takeWhile (tokens : List Token) :
    visible tokens =
      (tokens.filter fun token => token.kind.isSignificant).takeWhile fun token =>
        token.kind ≠ .endOfFile := by
  unfold visible
  induction tokens with
  | nil => rfl
  | cons token rest inductionHypothesis =>
      by_cases isEnd : token.kind = .endOfFile
      · have significant : token.kind.isSignificant := by
          rw [isEnd]
          rfl
        rw [List.takeWhile_cons_of_neg (by simp [isEnd]),
          List.filter_cons_of_pos (by simpa using significant),
          List.takeWhile_cons_of_neg (by simp [isEnd])]
        rfl
      · rw [List.takeWhile_cons_of_pos (by simp [isEnd]), List.filter_cons, List.filter_cons,
          inductionHypothesis]
        split
        · rw [List.takeWhile_cons_of_pos (by simp [isEnd])]
        · rfl

/-- From its start, a stream shows the visible tokens of its list. -/
@[simp] theorem TokenStream.ahead_ofTokens (source : Text) (tokens : List Token) :
    (ofTokens source tokens).ahead = Token.visible tokens :=
  rfl

/-- The stream over an accepted source is at the first of its tokens. -/
theorem TokenStream.ofSource_eq_ok_iff (source : Text) (stream : TokenStream) :
    ofSource source = .ok stream ↔
      (∃ c ∈ source, isWhitespace c = false) ∧ stream = ofTokens source (tokensOf source) := by
  rw [← checkSource_eq_ok_iff, ofSource, tokenize]
  cases checkSource source with
  | error error => simp [bind, Except.bind]
  | ok _ => simp [bind, Except.bind, pure, Except.pure, eq_comm]

/-- The declarations of an accepted source are read from the first of its tokens on. -/
theorem declaredNamesOfSource_eq_ok_iff (source : Text) (names : List DeclaredName) :
    declaredNamesOfSource source = .ok names ↔
      (∃ c ∈ source, isWhitespace c = false) ∧
        (declaredNames (.ofTokens source (tokensOf source))).1 = names := by
  calc
    declaredNamesOfSource source = .ok names ↔
        ∃ stream, TokenStream.ofSource source = .ok stream ∧ (declaredNames stream).1 = names := by
      rw [declaredNamesOfSource]
      cases TokenStream.ofSource source <;> simp [bind, Except.bind, pure, Except.pure]
    _ ↔ _ := by
      simp only [TokenStream.ofSource_eq_ok_iff, and_assoc, exists_and_left, exists_eq_left]

namespace Declarations

/-- What is read from a token and those behind it: a declaration, if the token is the word
CREATE, and otherwise nothing.  The second part holds the tokens to go on with. -/
def statementAt (token : Token) (rest : List Token) : Option DeclaredName × List Token :=
  if token.isKeywordText "CREATE".toList then objectAt rest else (none, rest)

/-- One step leaves no more tokens than there were. -/
theorem length_statementAt_le (token : Token) (rest : List Token) :
    (statementAt token rest).2.length ≤ rest.length := by
  unfold statementAt
  split
  · exact (objectAt_suffix rest).length_le
  · exact Nat.le_refl _

end Declarations

open Declarations (statementAt)

variable {stream : TokenStream}

theorem declaredNames_of_ahead_eq_nil
    (nothing : stream.ahead = []) :
    (declaredNames stream).1 = [] := by
  have isEnd : stream.skipTrivia.check .endOfFile := by
    rw [← stream.ahead_skipTrivia] at nothing
    rcases stream.isSettled_skipTrivia.ahead_cases with ⟨isEnd, _⟩ | ⟨_, split⟩
    · exact decide_eq_true isEnd
    · rw [nothing] at split
      contradiction
  rw [declaredNames, if_pos isEnd]

/-- One step of a reading: the first of the tokens ahead is read with those that belong to it, and
the reading goes on at the others. -/
theorem exists_next_of_ahead_eq_cons
    {token : Token}
    {rest : List Token}
    (ahead : stream.ahead = token :: rest) :
    ∃ next : TokenStream,
      next.ahead = (statementAt token rest).2 ∧
      (declaredNames stream).1 = (statementAt token rest).1.toList ++ (declaredNames next).1 := by
  rw [← stream.ahead_skipTrivia] at ahead
  rcases stream.isSettled_skipTrivia.ahead_cases with ⟨_, empty⟩ | ⟨notEnd, split⟩
  · rw [ahead] at empty
    contradiction
  · rw [ahead, List.cons.injEq] at split
    obtain ⟨rfl, rfl⟩ := split
    have goesOn : stream.skipTrivia.check .endOfFile = false := decide_eq_false notEnd
    rw [declaredNames, goesOn, if_neg Bool.false_ne_true]
    unfold statementAt
    cases isCreate : stream.skipTrivia.checkKeyword "CREATE".toList with
    | true =>
        have read := DeclaredName.objectAt_ahead stream.skipTrivia.advance
        rw [TokenStream.checkKeyword] at isCreate
        rw [isCreate, if_pos rfl, read]
        exact ⟨_, rfl, rfl⟩
    | false =>
        rw [TokenStream.checkKeyword] at isCreate
        rw [isCreate]
        exact ⟨_, rfl, rfl⟩

/-- What holds of a stream with no tokens ahead, and of a stream whenever it holds of the one at
which the reading goes on, holds of every stream. -/
theorem declaredNames_induction
    {motive : TokenStream → Prop}
    (done : ∀ stream : TokenStream,
      stream.ahead = [] → (declaredNames stream).1 = [] → motive stream)
    (step : ∀ (stream next : TokenStream) (token : Token) (rest : List Token),
      stream.ahead = token :: rest → next.ahead = (statementAt token rest).2 →
      (declaredNames stream).1 = (statementAt token rest).1.toList ++ (declaredNames next).1 →
      motive next → motive stream)
    (stream : TokenStream) :
    motive stream := by
  induction size : stream.ahead.length using Nat.strongRecOn generalizing stream with
  | ind size inductionHypothesis =>
      subst size
      cases ahead : stream.ahead with
      | nil => exact done stream ahead (declaredNames_of_ahead_eq_nil ahead)
      | cons token rest =>
          obtain ⟨next, nextAhead, names⟩ := exists_next_of_ahead_eq_cons ahead
          have shorter : next.ahead.length < stream.ahead.length := by
            rw [nextAhead, ahead, List.length_cons, Nat.lt_succ_iff]
            exact Declarations.length_statementAt_le token rest
          exact step stream next token rest ahead nextAhead names
            (inductionHypothesis _ shorter next rfl)

/-- Streams with the same tokens ahead declare the same. -/
theorem declaredNames_eq_of_ahead_eq
    {other : TokenStream}
    (same : other.ahead = stream.ahead) :
    (declaredNames other).1 = (declaredNames stream).1 := by
  induction stream using declaredNames_induction generalizing other with
  | done stream nothing noNames =>
      rw [noNames, declaredNames_of_ahead_eq_nil (same.trans nothing)]
  | step stream next token rest ahead nextAhead names inductionHypothesis =>
      obtain ⟨otherNext, otherAhead, otherNames⟩ := exists_next_of_ahead_eq_cons (same.trans ahead)
      rw [names, otherNames, inductionHypothesis (otherAhead.trans nextAhead.symm)]

end SqlLexer
