import SqlLexer.Proofs.Lexeme.Sequence
import SqlLexer.Proofs.Placement

/-!
# Sources without comments

Whitespace and comments only separate what stands around them.  When each of them is replaced by
one space, the other tokens of the source stay the same, also those that were kept short by a
comment behind them.
-/

namespace SqlLexer
namespace Lexeme

/-- The text of lexemes with a space in the place of each trivia. -/
def strip (pieces : List Lexeme) : Text :=
  pieces.flatMap fun piece => if piece.kind.isTrivia then [' '] else piece.text

@[simp] theorem strip_nil : strip [] = [] :=
  rfl

@[simp] theorem strip_append (first second : List Lexeme) :
    strip (first ++ second) = strip first ++ strip second :=
  List.flatMap_append

theorem strip_cons_of_isTrivia
    {piece : Lexeme}
    (trivia : piece.kind.isTrivia)
    (rest : List Lexeme) :
    strip (piece :: rest) = ' ' :: strip rest := by
  simp [strip, trivia]

theorem strip_cons_of_not_isTrivia
    {piece : Lexeme}
    (significant : piece.kind.isTrivia = false)
    (rest : List Lexeme) :
    strip (piece :: rest) = piece.text ++ strip rest := by
  simp [strip, significant]

/-- Where there are no trivia, nothing is replaced. -/
theorem strip_eq_concatText
    {pieces : List Lexeme}
    (significant : ∀ piece ∈ pieces, piece.kind.isTrivia = false) :
    strip pieces = concatText pieces := by
  induction pieces with
  | nil => rfl
  | cons piece rest inductionHypothesis =>
      rw [List.forall_mem_cons] at significant
      rw [strip_cons_of_not_isTrivia significant.1, inductionHypothesis significant.2,
        concatText_cons]

theorem significant_cons_of_isTrivia
    {piece : Lexeme}
    (trivia : piece.kind.isTrivia)
    (rest : List Lexeme) :
    significant (piece :: rest) = significant rest := by
  simp [significant, Kind.isSignificant, trivia]

theorem significant_cons_of_not_isTrivia
    {piece : Lexeme}
    (isSignificant : piece.kind.isTrivia = false)
    (rest : List Lexeme) :
    significant (piece :: rest) = piece :: significant rest := by
  simp [significant, Kind.isSignificant, isSignificant]

/-! ## Whitespace in front of a text -/

/-- Whitespace at the start of a text is no significant lexeme. -/
theorem significant_lexemes_dropWhile (text : Text) :
    significant (lexemes (text.dropWhile isWhitespace)) = significant (lexemes text) := by
  cases text with
  | nil => rfl
  | cons c rest =>
      cases space : isWhitespace c with
      | false => rw [List.dropWhile_cons_of_neg (by simp [space])]
      | true =>
          have first : First (c :: rest) ⟨.whitespace, (c :: rest).takeWhile isWhitespace⟩ :=
            .whitespace space
          have split := List.takeWhile_append_dropWhile (p := isWhitespace) (l := c :: rest)
          rw [first.lexemes_eq split, significant_cons_of_isTrivia rfl]

/-- A space in front of a text adds nothing but whitespace. -/
theorem significant_lexemes_space (text : Text) :
    significant (lexemes (' ' :: text)) = significant (lexemes text) := by
  rw [← significant_lexemes_dropWhile (' ' :: text), ← significant_lexemes_dropWhile text]
  rfl

/-! ## Trivia replaced by spaces -/

theorem IsLexed.text_ne_nil
    {pieces : List Lexeme}
    (lexed : IsLexed pieces) :
    ∀ piece ∈ pieces, piece.text ≠ [] := by
  induction lexed with
  | nil => simp
  | cons first _ inductionHypothesis =>
      exact List.forall_mem_cons.mpr ⟨first.text_ne_nil, inductionHypothesis⟩

/-- From the first trivia on, a text is cut from what stands before it and replaced by a text
that starts with a space. -/
theorem cut_strip
    {pieces : List Lexeme}
    (lexed : IsLexed pieces)
    (trivia : ∀ piece ∈ pieces.head?, piece.kind.isTrivia) :
    Cut (concatText pieces) (strip pieces) := by
  cases pieces with
  | nil => exact ⟨by simp, fun _ => rfl⟩
  | cons piece rest =>
      rw [strip_cons_of_isTrivia (trivia piece rfl)]
      refine ⟨by simp, fun empty => ?_⟩
      have nonempty := lexed.text_ne_nil piece List.mem_cons_self
      rw [concatText_cons, List.append_eq_nil_iff] at empty
      exact absurd empty.1 nonempty

/-- A lexeme that is not trivia stays the first when the trivia behind it are replaced. -/
theorem First.strip
    {piece : Lexeme}
    {rest : List Lexeme}
    (first : First (piece.text ++ concatText rest) piece)
    (lexed : IsLexed rest)
    (significant : piece.kind.isTrivia = false) :
    First (piece.text ++ Lexeme.strip rest) piece := by
  let isCode : Lexeme → Bool := fun other => !other.kind.isTrivia
  have split : rest.takeWhile isCode ++ rest.dropWhile isCode = rest :=
    List.takeWhile_append_dropWhile
  have code : ∀ other ∈ rest.takeWhile isCode, other.kind.isTrivia = false := by
    intro other member
    simpa [isCode] using List.mem_takeWhile_imp member
  have trivia : ∀ other ∈ (rest.dropWhile isCode).head?, other.kind.isTrivia := by
    intro other isHead
    have stopped := List.head?_dropWhile_not isCode rest
    rw [isHead] at stopped
    simpa [isCode] using stopped
  rw [← split] at first lexed
  have cut := cut_strip lexed.of_append_right trivia
  rw [← split, strip_append, strip_eq_concatText code]
  exact first.replace lexed cut (by simp [significant])

/-- The stripped text has the significant lexemes of the text and no others, by induction over the
lexemes. -/
theorem IsLexed.significant_lexemes_strip
    {pieces : List Lexeme}
    (lexed : IsLexed pieces) :
    significant (lexemes (strip pieces)) = significant pieces := by
  induction lexed with
  | nil => rw [strip_nil, lexemes_nil]
  | @cons piece rest first lexed inductionHypothesis =>
      cases trivia : piece.kind.isTrivia with
      | true =>
          rw [strip_cons_of_isTrivia trivia, significant_lexemes_space, inductionHypothesis,
            significant_cons_of_isTrivia trivia]
      | false =>
          rw [strip_cons_of_not_isTrivia trivia, (first.strip lexed trivia).lexemes_eq rfl,
            significant_cons_of_not_isTrivia trivia, inductionHypothesis,
            significant_cons_of_not_isTrivia trivia]

/-- A lexeme that is not whitespace has a character that is not whitespace. -/
theorem exists_solid_of_kind_ne
    {text : Text}
    {piece : Lexeme}
    (first : First text piece)
    (notSpace : piece.kind ≠ .whitespace) :
    ∃ c ∈ piece.text, isWhitespace c = false := by
  obtain ⟨c, tail, split⟩ := List.exists_cons_of_ne_nil first.text_ne_nil
  obtain ⟨after, rfl⟩ := first.text_initial
  refine ⟨c, by simp [split], ?_⟩
  rw [Bool.eq_false_iff]
  intro space
  have whitespace : First (c :: (tail ++ after)) _ := .whitespace space
  rw [← List.cons_append, ← split] at whitespace
  have same := first.next_eq.symm.trans whitespace.next_eq
  exact notSpace (congrArg Lexeme.kind same)

end Lexeme

namespace Token

/-- The text of tokens, without the end mark and with a space in the place of each trivia. -/
def strip (tokens : List Token) : Text :=
  (tokens.filter fun token => token.kind ≠ .endOfFile).flatMap fun token =>
    if token.kind.isTrivia then [' '] else token.text

theorem strip_eq (tokens : List Token) :
    strip tokens = Lexeme.strip (contents tokens) := by
  rw [strip, Lexeme.strip, contents, List.flatMap_map]
  rfl

end Token

/-- The significant tokens of a source are its significant lexemes and the end mark. -/
theorem map_lexeme_significant_tokensOf (source : Text) :
    (Token.significant (tokensOf source)).map Token.lexeme =
      Lexeme.significant (lexemes source) ++ [⟨.endOfFile, []⟩] := by
  rw [Token.map_lexeme_significant, tokensOf, map_lexeme_placeLexemes, Lexeme.significant,
    List.filter_append]
  rfl

/-- A significant token, other than the end mark, keeps a source from being refused when its
trivia are replaced. -/
theorem exists_solid_strip
    {source : Text}
    {token : Token}
    (member : token ∈ tokensOf source)
    (significant : token.kind.isSignificant)
    (noMark : token.kind ≠ .endOfFile) :
    ∃ c ∈ Lexeme.strip (lexemes source), isWhitespace c = false := by
  have isPiece : token.lexeme ∈ lexemes source := by
    rw [← contents_tokensOf]
    exact List.mem_map_of_mem (List.mem_filter.mpr ⟨member, by simpa using noMark⟩)
  have code : token.kind.isTrivia = false := by
    simpa [Kind.isSignificant] using significant
  have notSpace : token.kind ≠ .whitespace := by
    intro isSpace
    rw [isSpace] at code
    contradiction
  have solid : ∀ piece ∈ lexemes source, piece.kind ≠ .whitespace →
      ∃ c ∈ piece.text, isWhitespace c = false :=
    forall_mem_lexemes (fun c rest => Lexeme.exists_solid_of_kind_ne (Lexeme.first_next c rest)) _
  obtain ⟨c, inText, notBlank⟩ := solid token.lexeme isPiece notSpace
  refine ⟨c, List.mem_flatMap.mpr ⟨token.lexeme, isPiece, ?_⟩, notBlank⟩
  rwa [if_neg (by simpa [Token.lexeme] using code)]

/-- An accepted source with a significant token other than the end mark is still accepted when
each of its trivia is replaced by one space, and its significant tokens are the same. -/
theorem tokenize_strip
    {source : Text}
    {tokens : List Token}
    (accepted : tokenize source = .ok tokens)
    (code : ∃ token ∈ tokens, token.kind.isSignificant ∧ token.kind ≠ .endOfFile) :
    ∃ stripped, tokenize (Token.strip tokens) = .ok stripped ∧
      (Token.significant stripped).map Token.lexeme =
        (Token.significant tokens).map Token.lexeme := by
  obtain ⟨_, rfl⟩ := (tokenize_eq_ok_iff _ _).mp accepted
  obtain ⟨token, member, significant, noMark⟩ := code
  have usable := exists_solid_strip member significant noMark
  rw [Token.strip_eq, contents_tokensOf]
  refine ⟨_, (tokenize_eq_ok_iff _ _).mpr ⟨usable, rfl⟩, ?_⟩
  rw [map_lexeme_significant_tokensOf, map_lexeme_significant_tokensOf,
    (Lexeme.isLexed_lexemes source).significant_lexemes_strip]

/-- An operator that is short because a comment follows it, and a number behind the comment. -/
theorem tokenize_strip_operatorBeforeComment :
    ∃ tokens stripped : List Token,
      tokenize "a||/*b*/1--".toList = .ok tokens ∧
      (∃ token ∈ tokens, token.kind.isSignificant ∧ token.kind ≠ .endOfFile) ∧
      tokenize (Token.strip tokens) = .ok stripped ∧
      (Token.significant stripped).map Token.lexeme =
        (Token.significant tokens).map Token.lexeme := by
  have accepted : tokenize "a||/*b*/1--".toList = .ok (tokensOf "a||/*b*/1--".toList) := rfl
  have code : ∃ token ∈ tokensOf "a||/*b*/1--".toList,
      token.kind.isSignificant ∧ token.kind ≠ .endOfFile := by
    decide +kernel
  obtain ⟨stripped, still, same⟩ := tokenize_strip accepted code
  exact ⟨_, stripped, accepted, code, still, same⟩

end SqlLexer
