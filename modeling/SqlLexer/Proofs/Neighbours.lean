import Mathlib.Data.List.Chain
import SqlLexer.Proofs.Lexeme.Edge
import SqlLexer.Proofs.Placement

/-!
# Neighbouring tokens

Every lexeme reaches as far as it can.  So the one behind it does not begin with a character with
which it would have gone on, and behind one that is never closed there is only the end mark.
-/

namespace SqlLexer

theorem isIdentifierPart_of_begins_word
    {kind : Kind}
    {c : Char}
    (begins : kind.begins c)
    (continues : kind ∈ [.identifier, .keyword, .numericLiteral, .dollarQuotedString]) :
    isIdentifierPart c := by
  simp only [List.mem_cons, List.not_mem_nil, or_false] at continues
  rw [isIdentifierPart, Bool.or_eq_true, Bool.or_eq_true]
  rcases continues with rfl | rfl | rfl | rfl
  · exact .inl (.inl begins)
  · exact .inl (.inl begins)
  · exact .inl (.inr begins)
  · exact .inr begins

namespace Lexeme

/-- What a lexeme keeps from coming directly behind it. -/
structure Adjoins (first second : Lexeme) : Prop where
  /-- Two runs of whitespace would have been one. -/
  whitespace : first.kind = .whitespace → second.kind ≠ .whitespace
  /-- A word goes on through letters, digits and dollars. -/
  word : first.kind = .identifier ∨ first.kind = .keyword →
    second.kind ∉ [.identifier, .keyword, .numericLiteral, .dollarQuotedString] ∧
      second ≠ ⟨.operator, ['$']⟩
  /-- Two quotes in a row do not close a string. -/
  stringLiteral : first.kind = .stringLiteral → second.kind ≠ .stringLiteral
  /-- Two quotes in a row do not close a quoted identifier. -/
  quotedIdentifier : first.kind = .quotedIdentifier → second.kind ≠ .quotedIdentifier
  /-- A line comment ends with the text or in front of a line feed. -/
  lineComment : first.kind = .lineComment →
    second.kind = .endOfFile ∨ second.kind = .whitespace ∧ second.text.head? = some '\n'
  /-- A lexeme without its closing mark reaches to the end. -/
  unclosed : first.IsUnclosed → second.kind = .endOfFile

/-- Two lexemes of which the second comes first behind the first one. -/
theorem First.adjoins
    {first second : Lexeme}
    {after : Text}
    (isFirst : First (first.text ++ (second.text ++ after)) first)
    (isSecond : First (second.text ++ after) second) :
    first.Adjoins second := by
  obtain ⟨c, rest, isText⟩ := List.exists_cons_of_ne_nil isSecond.text_ne_nil
  have stops : first.kind.goesOn c = false := isFirst.goesOn_eq_false c (by simp [isText])
  have begins : second.kind.begins c := by
    rw [isText] at isSecond
    exact isSecond.begins
  -- Where both lexemes go by one character class, the second one would begin inside the first.
  have apart {kind : Kind} (isKind : first.kind = kind) (same : kind.goesOn c = kind.begins c) :
      second.kind ≠ kind := by
    intro also
    rw [isKind, same, ← also, begins] at stops
    contradiction
  constructor
  · exact fun isSpace => apart isSpace rfl
  · intro isWord
    have noPart : isIdentifierPart c = false := by
      rcases isWord with kind | kind <;> rw [kind] at stops <;> exact stops
    constructor
    · intro continues
      rw [isIdentifierPart_of_begins_word begins continues] at noPart
      contradiction
    · rintro rfl
      obtain ⟨rfl, _⟩ := List.cons.inj isText
      exact absurd noPart (by decide)
  · exact fun isString => apart isString rfl
  · exact fun isQuoted => apart isQuoted rfl
  · intro isComment
    rw [isComment] at stops
    obtain rfl : c = '\n' := by simpa [Kind.goesOn] using stops
    have isSpace : second.kind = .whitespace := by
      rw [isText, List.cons_append] at isSecond
      exact congrArg Lexeme.kind (isSecond.unique (.whitespace rfl))
    exact .inr ⟨isSpace, by rw [isText, List.head?_cons]⟩
  · intro unclosed
    have nothing := isFirst.eq_nil_of_isUnclosed unclosed
    exact absurd (List.append_eq_nil_iff.mp nothing).1 isSecond.text_ne_nil

/-- Every lexeme may stand in front of the end mark. -/
theorem adjoins_endMark (first : Lexeme) : first.Adjoins ⟨.endOfFile, []⟩ where
  whitespace := by simp
  word := by simp
  stringLiteral := by simp
  quotedIdentifier := by simp
  lineComment := fun _ => .inl rfl
  unclosed := fun _ => rfl

/-- Each lexeme of a row and the one behind it are neighbours, up to the end mark. -/
theorem IsLexed.isChain_adjoins
    {pieces : List Lexeme}
    (lexed : IsLexed pieces) :
    List.IsChain Adjoins (pieces ++ [⟨.endOfFile, []⟩]) := by
  induction lexed with
  | nil => exact List.isChain_singleton _
  | @cons piece rest first lexed inductionHypothesis =>
      rw [List.cons_append, List.isChain_cons]
      refine ⟨fun second isNext => ?_, inductionHypothesis⟩
      cases lexed with
      | nil =>
          obtain rfl := Option.some.inj isNext
          exact adjoins_endMark piece
      | cons isSecond _ =>
          obtain rfl := Option.some.inj isNext
          exact first.adjoins isSecond

end Lexeme

/-- Of two consecutive tokens of an accepted source, the second is none that the first one would
have reached into, and behind a token that is never closed there is the end mark. -/
theorem tokenize_adjoins
    {source : Text}
    {tokens : List Token}
    (accepted : tokenize source = .ok tokens) :
    tokens.IsChain fun first second => first.lexeme.Adjoins second.lexeme := by
  obtain ⟨_, rfl⟩ := (tokenize_eq_ok_iff _ _).mp accepted
  have chain := (Lexeme.isLexed_lexemes source).isChain_adjoins
  rwa [← map_lexeme_placeLexemes 0 Location.start, List.isChain_map] at chain

/-- A word with a dollar, a comment that ends a line, a string with a doubled quote and a string
that is never closed. -/
theorem tokenize_adjoins_openDollar :
    ∃ tokens, tokenize "é$1--é\n'a''$'$é$$é".toList = .ok tokens ∧
      tokens.IsChain fun first second => first.lexeme.Adjoins second.lexeme := by
  have accepted : tokenize "é$1--é\n'a''$'$é$$é".toList =
      .ok (tokensOf "é$1--é\n'a''$'$é$$é".toList) := rfl
  exact ⟨_, accepted, tokenize_adjoins accepted⟩

end SqlLexer
