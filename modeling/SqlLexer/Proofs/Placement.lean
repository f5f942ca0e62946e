import SqlLexer.Proofs.Lexeme.Initial
import SqlLexer.Tokenization

/-!
# Tokens and their lexemes

A token is a lexeme with a place.  The tokens of an accepted source are its lexemes in their
places, followed by the end mark.
-/

namespace SqlLexer
namespace Text

/-- The bytes of an inner part of a text give back that part. -/
theorem slice_append (before between after : Text) :
    slice (before ++ (between ++ after)) (byteLength before)
      (byteLength before + byteLength between) = between := by
  simp [slice]

end Text

/-- The lexemes that are not trivia. -/
def Lexeme.significant (pieces : List Lexeme) : List Lexeme :=
  pieces.filter fun piece => piece.kind.isSignificant

/-- No lexeme of a text is an end mark. -/
theorem kind_ne_endOfFile_of_mem_lexemes (text : Text) :
    ∀ piece ∈ lexemes text, piece.kind ≠ .endOfFile :=
  forall_mem_lexemes (fun c rest => (Lexeme.first_next c rest).kind_ne_endOfFile) text

namespace Token

/-- What a token is, without its place. -/
def lexeme (token : Token) : Lexeme :=
  ⟨token.kind, token.text⟩

/-- What the tokens of a list are, without their places and the end mark. -/
def contents (tokens : List Token) : List Lexeme :=
  (tokens.filter fun token => token.kind ≠ .endOfFile).map lexeme

theorem concatText_eq (tokens : List Token) :
    concatText tokens = Lexeme.concatText (contents tokens) := by
  rw [concatText, Lexeme.concatText, contents, List.flatMap_map]
  rfl

theorem map_lexeme_significant (tokens : List Token) :
    (significant tokens).map lexeme = Lexeme.significant (tokens.map lexeme) := by
  rw [significant, Lexeme.significant, List.filter_map]
  rfl

end Token

/-- Without their places, the placed tokens are the lexemes again and the end mark. -/
theorem map_lexeme_placeLexemes
    (offset : Nat)
    (location : Location)
    (pieces : List Lexeme) :
    (placeLexemes offset location pieces).map Token.lexeme = pieces ++ [⟨.endOfFile, []⟩] := by
  induction pieces generalizing offset location with
  | nil => rfl
  | cons piece rest inductionHypothesis =>
      rw [placeLexemes_cons, List.map_cons, inductionHypothesis]
      rfl

theorem contents_placeLexemes
    (offset : Nat)
    (location : Location)
    {pieces : List Lexeme}
    (noMark : ∀ piece ∈ pieces, piece.kind ≠ .endOfFile) :
    Token.contents (placeLexemes offset location pieces) = pieces := by
  have contentsEq : ∀ tokens : List Token, Token.contents tokens =
      (tokens.map Token.lexeme).filter fun piece => piece.kind ≠ .endOfFile := by
    intro tokens
    rw [Token.contents, List.filter_map]
    rfl
  rw [contentsEq, map_lexeme_placeLexemes, List.filter_append,
    List.filter_eq_self.mpr fun piece member => decide_eq_true (noMark piece member)]
  exact List.append_nil pieces

/-- A placed token is one of the lexemes or the end mark behind them, and the lexemes before it
tell where it stands. -/
theorem exists_split_of_mem_placeLexemes
    {offset : Nat}
    {location : Location}
    {pieces : List Lexeme}
    {token : Token}
    (member : token ∈ placeLexemes offset location pieces) :
    ∃ first second, pieces = first ++ second ∧
      token.span.start = offset + Text.byteLength (Lexeme.concatText first) ∧
      token.span.length = Text.byteLength token.text ∧
      token.location = location.walk (Lexeme.concatText first) ∧
      token.lexeme = second.head?.getD ⟨.endOfFile, []⟩ := by
  induction pieces generalizing offset location with
  | nil =>
      rw [placeLexemes_nil, List.mem_singleton] at member
      subst member
      exact ⟨[], [], rfl, rfl, rfl, rfl, rfl⟩
  | cons piece rest inductionHypothesis =>
      rw [placeLexemes_cons, List.mem_cons] at member
      rcases member with rfl | later
      · exact ⟨[], piece :: rest, rfl, rfl, rfl, rfl, rfl⟩
      · obtain ⟨first, second, rfl, start, length, place, isPiece⟩ := inductionHypothesis later
        refine ⟨piece :: first, second, rfl, ?_, length, ?_, isPiece⟩
        · rw [start, Lexeme.concatText_cons, Text.byteLength_append, Nat.add_assoc]
        · rw [place, Lexeme.concatText_cons, Location.walk_append]

/-- The contents of the tokens of a source are its lexemes. -/
@[simp] theorem contents_tokensOf (source : Text) :
    Token.contents (tokensOf source) = lexemes source :=
  contents_placeLexemes 0 Location.start (kind_ne_endOfFile_of_mem_lexemes source)

/-- A source is accepted if it has a character other than whitespace. -/
theorem checkSource_eq_ok_iff (source : Text) :
    checkSource source = .ok () ↔ ∃ c ∈ source, isWhitespace c = false := by
  have usable : source.all isWhitespace = false ↔ ∃ c ∈ source, isWhitespace c = false := by
    simp [List.all_eq_false]
  rw [← usable, checkSource]
  cases source with
  | nil => simp
  | cons c rest =>
      rw [List.isEmpty_cons, if_neg Bool.false_ne_true]
      cases (c :: rest).all isWhitespace <;> simp

/-- Exactly the sources with a character other than whitespace have tokens. -/
theorem tokenize_eq_ok_iff (source : Text) (tokens : List Token) :
    tokenize source = .ok tokens ↔
      (∃ c ∈ source, isWhitespace c = false) ∧ tokens = tokensOf source := by
  rw [← checkSource_eq_ok_iff, tokenize]
  cases checkSource source with
  | error error => simp [bind, Except.bind]
  | ok _ => simp [bind, Except.bind, pure, Except.pure, eq_comm]

end SqlLexer
