import Mathlib.Data.List.TakeWhile
import SqlLexer.Proofs.Name.Extension

/-!
# Statements on either side of a separator

A token that is no part of a name and no word of a declaration, such as a semicolon, ends the
statement before it, however much of that statement is there.  So what stands on one side of it
has no influence on what the other side declares.
-/

namespace SqlLexer

variable {first second : List Token} {separator : Token}

/-- The tokens on both sides of a significant token are visible as they are alone, unless there
is an end mark on the first side. -/
theorem Token.visible_append_cons
    (noMark : ∀ token ∈ first, token.kind ≠ .endOfFile)
    (significant : separator.kind.isSignificant)
    (notMark : separator.kind ≠ .endOfFile) :
    visible (first ++ separator :: second) = visible first ++ separator :: visible second := by
  have all : ∀ token ∈ first, decide (token.kind ≠ .endOfFile) = true :=
    fun token member => decide_eq_true (noMark token member)
  unfold visible
  rw [List.takeWhile_append_of_pos all, List.takeWhile_cons_of_pos (by simp [notMark]),
    List.takeWhile_eq_self_iff.mpr all, List.filter_append,
    List.filter_cons_of_pos (by simpa using significant)]

/-- Tokens of which the first ends every statement, put behind others. -/
def Extension.behind
    (separator : Token)
    (rest : List Token)
    (ends : separator.kind.EndsStatement) : Extension where
  view := id
  tail := separator :: rest
  kind_view _ := rfl
  location_view _ := rfl
  isKeywordText_view _ := rfl
  partValue?_view _ := rfl
  endsStatement_tail := by
    rintro token ⟨⟩
    exact ends

theorem Extension.apply_behind
    (rest : List Token)
    (ends : separator.kind.EndsStatement)
    (tokens : List Token) :
    (behind separator rest ends).apply tokens = tokens ++ separator :: rest := by
  rw [apply, behind, List.map_id]

/-- A token that ends every statement declares nothing itself. -/
theorem declaredNames_of_ahead_eq_cons
    {stream other : TokenStream}
    (ends : separator.kind.EndsStatement)
    (ahead : stream.ahead = separator :: other.ahead) :
    (declaredNames stream).1 = (declaredNames other).1 := by
  obtain ⟨next, nextAhead, names⟩ := exists_next_of_ahead_eq_cons ahead
  rw [Declarations.statementAt, separator.isKeywordText_of_endsStatement ends] at nextAhead names
  rw [names]
  exact declaredNames_eq_of_ahead_eq nextAhead

/-- Two token lists with a token between them that is no trivia, no end mark, no word and no dot
declare what the first declares and then what the second declares. -/
theorem declaredNames_append_separator
    (source : Text)
    {first second : List Token}
    {separator : Token}
    (noMark : ∀ token ∈ first, token.kind ≠ .endOfFile)
    (separates : separator.kind ∉ [.whitespace, .lineComment, .blockComment, .keyword,
      .identifier, .quotedIdentifier, .dot, .endOfFile]) :
    (declaredNames (.ofTokens source (first ++ [separator] ++ second))).1 =
      (declaredNames (.ofTokens source first)).1 ++
        (declaredNames (.ofTokens source second)).1 := by
  simp only [List.mem_cons, List.not_mem_nil, or_false, not_or] at separates
  obtain ⟨notSpace, notLine, notBlock, notKeyword, notIdentifier, notQuoted, notDot, notMark⟩ :=
    separates
  have significant : separator.kind.isSignificant := by
    cases kind : separator.kind <;> simp_all <;> rfl
  have ends : separator.kind.EndsStatement := by
    simp [Kind.EndsStatement, *]
  have whole : (TokenStream.ofTokens source (first ++ [separator] ++ second)).ahead =
      (Extension.behind separator (Token.visible second) ends).apply
        (TokenStream.ofTokens source first).ahead := by
    rw [Extension.apply_behind, List.append_assoc, List.singleton_append]
    exact Token.visible_append_cons noMark significant notMark
  have behind : (TokenStream.ofTokens source (separator :: second)).ahead =
      separator :: (TokenStream.ofTokens source second).ahead :=
    @Token.visible_append_cons [] second separator (by simp) significant notMark
  rw [declaredNames_of_ahead_eq_apply _ whole behind, declaredNames_of_ahead_eq_cons ends behind]

/-- A statement that breaks off behind a dot does not go on behind a semicolon. -/
theorem declaredNames_append_separator_brokenOff :
    (∀ token ∈ (tokensOf "CREATE UNIQUE INDEX IF NOT EXISTS a.".toList).dropLast,
      token.kind ≠ .endOfFile) ∧
    Kind.semicolon ∉ [.whitespace, .lineComment, .blockComment, .keyword, .identifier,
      .quotedIdentifier, .dot, .endOfFile] ∧
    (declaredNames (.ofTokens []
      ((tokensOf "CREATE UNIQUE INDEX IF NOT EXISTS a.".toList).dropLast ++
        [⟨.semicolon, ⟨0, 1⟩, Location.start, [';']⟩] ++
        (tokensOf "b CREATE VIEW c".toList).dropLast))).1 =
      (declaredNames (.ofTokens []
        (tokensOf "CREATE UNIQUE INDEX IF NOT EXISTS a.".toList).dropLast)).1 ++
        (declaredNames (.ofTokens [] (tokensOf "b CREATE VIEW c".toList).dropLast)).1 := by
  have noMark : ∀ token ∈ (tokensOf "CREATE UNIQUE INDEX IF NOT EXISTS a.".toList).dropLast,
      token.kind ≠ .endOfFile := by
    decide +kernel
  have separates : Kind.semicolon ∉ [.whitespace, .lineComment, .blockComment, .keyword,
      .identifier, .quotedIdentifier, .dot, .endOfFile] := by
    decide
  exact ⟨noMark, separates, declaredNames_append_separator [] noMark separates⟩

end SqlLexer
