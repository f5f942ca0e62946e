import Mathlib.Data.List.Chain
import SqlLexer.Proofs.Placement

/-!
# Tokens tile their source

The tokens of a source lie end to end, from its first byte to its last, with nothing between
them.  Each shows exactly the text under its span, and an empty end mark closes the list.
-/

namespace SqlLexer
namespace Text

/-- Offsets between two characters of a text, or at one of its ends. -/
def IsBoundary (text : Text) (offset : Nat) : Prop :=
  ∃ before after, text = before ++ after ∧ byteLength before = offset

theorem isBoundary_append (before after : Text) :
    IsBoundary (before ++ after) (byteLength before) :=
  ⟨before, after, rfl, rfl⟩

theorem byteLength_pos {text : Text} (nonempty : text ≠ []) : 0 < byteLength text := by
  cases text with
  | nil => contradiction
  | cons c rest =>
      have positive := c.utf8Size_pos
      rw [byteLength_cons]
      omega

end Text

/-- A list of tokens that lie end to end in a source, from a byte offset to the end. -/
structure Tiles (source : Text) (offset : Nat) (tokens : List Token) : Prop where
  /-- The first token starts at the offset. -/
  starts : ∀ first ∈ tokens.head?, first.span.start = offset
  /-- Each token starts where the one before it ends. -/
  contiguous : tokens.IsChain fun first second => second.span.start = first.span.stop
  /-- Only the last token may be empty. -/
  nonempty : ∀ token ∈ tokens.dropLast, 0 < token.span.length
  /-- No token starts or ends inside a character. -/
  boundaries : ∀ token ∈ tokens,
    source.IsBoundary token.span.start ∧ source.IsBoundary token.span.stop
  /-- Each token has the text under its span. -/
  sliced : ∀ token ∈ tokens, token.text = token.span.slice source
  /-- The last token, and no other, is an end mark.  It is empty and stands behind the last
  byte. -/
  ends : ∃ before mark, tokens = before ++ [mark] ∧
    (∀ token ∈ before, token.kind ≠ .endOfFile) ∧
    mark.kind = .endOfFile ∧ mark.span = ⟨source.byteLength, 0⟩

namespace Tiles

/-- The end mark alone tiles the empty rest of a source. -/
theorem endMark (source : Text) (location : Location) :
    Tiles source source.byteLength
      [⟨.endOfFile, ⟨source.byteLength, 0⟩, location, []⟩] where
  starts := by simp
  contiguous := List.isChain_singleton _
  nonempty := by simp
  boundaries := by
    have atEnd : source.IsBoundary source.byteLength := by
      simpa using Text.isBoundary_append source []
    simp [Span.stop, atEnd]
  sliced := by
    have empty := Text.slice_append source [] []
    simp only [List.append_nil, Text.byteLength_nil, Nat.add_zero] at empty
    simp [Span.slice, Span.stop, empty]
  ends := ⟨[], _, rfl, by simp, rfl, rfl⟩

/-- A token in front of a tiling extends it to the start of the token. -/
theorem cons
    {source : Text}
    {offset : Nat}
    {token : Token}
    {tokens : List Token}
    (tiles : Tiles source token.span.stop tokens)
    (significant : token.kind ≠ .endOfFile)
    (nonempty : 0 < token.span.length)
    (starts : token.span.start = offset)
    (startBoundary : source.IsBoundary offset)
    (stopBoundary : source.IsBoundary token.span.stop)
    (sliced : token.text = token.span.slice source) :
    Tiles source offset (token :: tokens) where
  starts := by simpa using starts
  contiguous := List.isChain_cons.mpr ⟨tiles.starts, tiles.contiguous⟩
  nonempty := by
    intro other member
    obtain ⟨before, mark, rfl, _⟩ := tiles.ends
    rw [List.dropLast_cons_of_ne_nil (by simp)] at member
    rcases List.mem_cons.mp member with rfl | inTail
    · exact nonempty
    · exact tiles.nonempty other inTail
  boundaries := by
    intro other member
    rcases List.mem_cons.mp member with rfl | inTail
    · exact ⟨starts ▸ startBoundary, stopBoundary⟩
    · exact tiles.boundaries other inTail
  sliced := by
    intro other member
    rcases List.mem_cons.mp member with rfl | inTail
    · exact sliced
    · exact tiles.sliced other inTail
  ends := by
    obtain ⟨before, mark, rfl, noMark, isMark⟩ := tiles.ends
    refine ⟨token :: before, mark, rfl, ?_, isMark⟩
    simpa using ⟨significant, noMark⟩

end Tiles

/-- Lexemes that spell out the rest of a source tile that rest. -/
theorem tiles_placeLexemes
    (before : Text)
    (location : Location)
    (pieces : List Lexeme)
    (nonempty : ∀ piece ∈ pieces, piece.text ≠ [])
    (noMark : ∀ piece ∈ pieces, piece.kind ≠ .endOfFile) :
    Tiles (before ++ Lexeme.concatText pieces) before.byteLength
      (placeLexemes before.byteLength location pieces) := by
  induction pieces generalizing before location with
  | nil => simpa using Tiles.endMark before location
  | cons piece rest inductionHypothesis =>
      have tiles := inductionHypothesis (before ++ piece.text) (location.walk piece.text)
        (fun other member => nonempty other (List.mem_cons_of_mem _ member))
        (fun other member => noMark other (List.mem_cons_of_mem _ member))
      have positive := Text.byteLength_pos (nonempty piece List.mem_cons_self)
      have stops := Text.isBoundary_append (before ++ piece.text) (Lexeme.concatText rest)
      rw [List.append_assoc, Text.byteLength_append] at tiles stops
      rw [placeLexemes_cons, Lexeme.concatText_cons]
      exact tiles.cons (noMark piece List.mem_cons_self) positive rfl
        (Text.isBoundary_append before _) stops (Text.slice_append before piece.text _).symm

/-- Every source with a character other than space, tab, carriage return and line feed has
tokens; they tile it and spell it out. -/
theorem tokenize_tiles
    (source : Text)
    (usable : ∃ c ∈ source, c ∉ [' ', '\t', '\r', '\n']) :
    ∃ tokens, tokenize source = .ok tokens ∧
      Tiles source 0 tokens ∧
      Token.concatText tokens = source := by
  have accepted : tokenize source = .ok (tokensOf source) := by
    obtain ⟨c, member, notSpace⟩ := usable
    have solid : isWhitespace c = false := by
      simpa [isWhitespace, and_assoc] using notSpace
    exact (tokenize_eq_ok_iff _ _).mpr ⟨⟨c, member, solid⟩, rfl⟩
  have nonempty : ∀ piece ∈ lexemes source, piece.text ≠ [] :=
    forall_mem_lexemes Lexeme.next_text_ne_nil source
  have tiles := tiles_placeLexemes [] Location.start (lexemes source) nonempty
    (kind_ne_endOfFile_of_mem_lexemes source)
  have text : Token.concatText (tokensOf source) = source := by
    rw [Token.concatText_eq, contents_tokensOf, concatText_lexemes]
  rw [concatText_lexemes] at tiles
  exact ⟨tokensOf source, accepted, tiles, text⟩

/-- A word of two bytes a letter, a comment and an open string. -/
theorem tokenize_tiles_openString :
    (∃ c ∈ "\té--\n$$ '".toList, c ∉ [' ', '\t', '\r', '\n']) ∧
      ∃ tokens, tokenize "\té--\n$$ '".toList = .ok tokens ∧
        Tiles "\té--\n$$ '".toList 0 tokens ∧
        Token.concatText tokens = "\té--\n$$ '".toList := by
  have usable : ∃ c ∈ "\té--\n$$ '".toList, c ∉ [' ', '\t', '\r', '\n'] :=
    ⟨'é', by decide, by decide⟩
  exact ⟨usable, tokenize_tiles _ usable⟩

end SqlLexer
