import Mathlib.Data.List.Chain
import SqlLexer.Proofs.Placement
import SqlLexer.TokenStream.Basic

/-!
# The end mark of a partial list

A list of tokens that does not end in an end mark gets one behind its last token.  The place of that
mark is found from the text of the last token alone, while the tokens of a source get theirs one
after the other.  Both ways lead to the same place.
-/

namespace SqlLexer
namespace Text

theorem afterLast?_eq_none_iff (mark : Char) (text : Text) :
    afterLast? mark text = none ↔ mark ∉ text := by
  induction text with
  | nil => simp [afterLast?]
  | cons c rest inductionHypothesis =>
      rw [afterLast?, List.mem_cons, not_or, ← inductionHypothesis]
      cases afterLast? mark rest <;> simp [eq_comm]

/-- The part behind the last occurrence of a character does not have it. -/
theorem exists_eq_append_of_afterLast?
    {mark : Char}
    {text after : Text}
    (found : afterLast? mark text = some after) :
    ∃ before, text = before ++ mark :: after ∧ mark ∉ after := by
  induction text with
  | nil => contradiction
  | cons c rest inductionHypothesis =>
      rw [afterLast?] at found
      cases inRest : afterLast? mark rest with
      | some behind =>
          rw [inRest] at found inductionHypothesis
          obtain ⟨before, split, absent⟩ := inductionHypothesis found
          exact ⟨c :: before, by rw [split, List.cons_append], absent⟩
      | none =>
          rw [inRest] at found
          obtain ⟨rfl, isRest⟩ := Option.ite_none_right_eq_some.mp found
          obtain rfl := Option.some.inj isRest
          exact ⟨[], rfl, (afterLast?_eq_none_iff c rest).mp inRest⟩

/-- Nothing lies between an offset and itself. -/
theorem slice_self (text : Text) (offset : Nat) : text.slice offset offset = [] := by
  unfold slice
  cases splitAtByte? offset text <;> simp

end Text

namespace Location

/-- Each line feed begins another line. -/
theorem line_walk (location : Location) (text : Text) :
    (location.walk text).line = location.line + text.count '\n' := by
  induction text generalizing location with
  | nil => rfl
  | cons c rest inductionHypothesis =>
      rw [walk_cons, inductionHypothesis, step, List.count_cons]
      split <;> simp_all [Nat.add_comm, Nat.add_left_comm]

/-- Without a line feed a walk stays in its line. -/
theorem walk_of_notMem
    {text : Text}
    (noFeed : '\n' ∉ text)
    (location : Location) :
    location.walk text = ⟨location.line, location.column + text.length⟩ := by
  induction text generalizing location with
  | nil => rfl
  | cons c rest inductionHypothesis =>
      rw [List.mem_cons, not_or] at noFeed
      rw [walk_cons, step, if_neg (Ne.symm noFeed.1), inductionHypothesis noFeed.2,
        List.length_cons, Nat.add_assoc, Nat.add_comm 1]

end Location

namespace Token

/-- The place just past a token is where a walk over its text leads. -/
theorem locationAfter_eq (token : Token) :
    token.locationAfter = token.location.walk token.text := by
  unfold locationAfter
  split
  · rename_i lastLine found
    obtain ⟨before, split, noFeed⟩ := Text.exists_eq_append_of_afterLast? found
    rw [split, Location.walk_append, Location.walk_cons, Location.step, if_pos rfl,
      Location.walk_of_notMem noFeed, Location.line_walk, List.count_append, List.count_cons_self,
      List.count_eq_zero.mpr noFeed, Nat.add_comm 1]
    rfl
  · rename_i missing
    rw [Location.walk_of_notMem ((Text.afterLast?_eq_none_iff _ _).mp missing)]

/-- A token that starts where another one ends, as that one itself tells. -/
structure IsFollowedBy (first second : Token) : Prop where
  start : second.span.start = first.span.stop
  location : second.location = first.locationAfter

end Token

/-! ## Tokens of a source -/

theorem place_of_mem_head?_placeLexemes
    {offset : Nat}
    {location : Location}
    {pieces : List Lexeme}
    {first : Token}
    (isFirst : first ∈ (placeLexemes offset location pieces).head?) :
    first.span.start = offset ∧ first.location = location := by
  cases pieces <;> obtain rfl := Option.some.inj isFirst <;> exact ⟨rfl, rfl⟩

/-- Lexemes are placed one behind the other. -/
theorem isChain_isFollowedBy_placeLexemes
    (offset : Nat)
    (location : Location)
    (pieces : List Lexeme) :
    (placeLexemes offset location pieces).IsChain Token.IsFollowedBy := by
  induction pieces generalizing offset location with
  | nil => exact List.isChain_singleton _
  | cons piece rest inductionHypothesis =>
      rw [placeLexemes_cons, List.isChain_cons]
      refine ⟨fun second isNext => ?_, inductionHypothesis _ _⟩
      obtain ⟨start, place⟩ := place_of_mem_head?_placeLexemes isNext
      refine ⟨start, place.trans ?_⟩
      rw [Token.locationAfter_eq]

/-- Placed lexemes end in an empty end mark, which is the only one. -/
theorem exists_placeLexemes_eq_append
    (offset : Nat)
    (location : Location)
    {pieces : List Lexeme}
    (noMark : ∀ piece ∈ pieces, piece.kind ≠ .endOfFile) :
    ∃ before stop place,
      placeLexemes offset location pieces = before ++ [⟨.endOfFile, ⟨stop, 0⟩, place, []⟩] ∧
      ∀ token ∈ before, token.kind ≠ .endOfFile := by
  induction pieces generalizing offset location with
  | nil => exact ⟨[], offset, location, rfl, List.forall_mem_nil _⟩
  | cons piece rest inductionHypothesis =>
      rw [List.forall_mem_cons] at noMark
      obtain ⟨before, stop, place, split, significant⟩ := inductionHypothesis
        (offset + Text.byteLength piece.text) (location.walk piece.text) noMark.2
      rw [placeLexemes_cons, split, ← List.cons_append]
      exact ⟨_, stop, place, rfl, List.forall_mem_cons.mpr ⟨noMark.1, significant⟩⟩

namespace TokenStream

/-- Behind a token that is no end mark stands an empty one. -/
theorem endMarkOf_of_mem_getLast?_of_ne
    {source : Text}
    {tokens : List Token}
    {last : Token}
    (isLast : last ∈ tokens.getLast?)
    (notEnd : last.kind ≠ .endOfFile) :
    endMarkOf source tokens = ⟨.endOfFile, ⟨last.span.stop, 0⟩, last.locationAfter, []⟩ := by
  rw [endMarkOf, Option.mem_def.mp isLast]
  dsimp only
  rw [if_neg notEnd, endMarkAt, Token.ofSpan, Span.slice]
  exact congrArg _ (Text.slice_self source _)

/-- A part of a list of tokens that follow each other gets its end mark where the next token
starts. -/
theorem endMarkOf_take
    {tokens : List Token}
    {index : Nat}
    (source : Text)
    (chain : tokens.IsChain Token.IsFollowedBy)
    (inside : index + 1 < tokens.length)
    (notEnd : tokens[index].kind ≠ .endOfFile) :
    endMarkOf source (tokens.take (index + 1)) =
      ⟨.endOfFile, ⟨tokens[index + 1].span.start, 0⟩, tokens[index + 1].location, []⟩ := by
  have isLast : tokens[index] ∈ (tokens.take (index + 1)).getLast? := by
    simp [List.getLast?_take]
  have follows := List.isChain_iff_getElem.mp chain index inside
  rw [follows.start, follows.location]
  exact endMarkOf_of_mem_getLast?_of_ne isLast notEnd

/-- The end mark behind the first tokens of an accepted source is empty and stands where the next
token starts.  Behind all tokens but the last one it is that last one. -/
theorem endMark_ofTokens_take
    {source : Text}
    {tokens : List Token}
    {count : Nat}
    (accepted : tokenize source = .ok tokens)
    (positive : 1 ≤ count)
    (inside : count < tokens.length) :
    (ofTokens source (tokens.take count)).endMark =
        ⟨.endOfFile, ⟨tokens[count].span.start, 0⟩, tokens[count].location, []⟩ ∧
      (count = tokens.length - 1 →
        tokens.getLast? = some (ofTokens source (tokens.take count)).endMark) := by
  obtain ⟨_, rfl⟩ := (tokenize_eq_ok_iff _ _).mp accepted
  obtain ⟨index, rfl⟩ := Nat.exists_eq_add_of_le' positive
  have chain : (tokensOf source).IsChain Token.IsFollowedBy :=
    isChain_isFollowedBy_placeLexemes 0 Location.start (lexemes source)
  obtain ⟨before, stop, place, split, significant⟩ :
      ∃ before stop place,
        tokensOf source = before ++ [⟨.endOfFile, ⟨stop, 0⟩, place, []⟩] ∧
        ∀ token ∈ before, token.kind ≠ .endOfFile :=
    exists_placeLexemes_eq_append 0 Location.start (kind_ne_endOfFile_of_mem_lexemes source)
  simp only [split] at chain inside ⊢
  have notEnd : (before ++ [⟨.endOfFile, ⟨stop, 0⟩, place, []⟩])[index].kind ≠ .endOfFile := by
    rw [List.getElem_append_left (by simpa using inside)]
    exact significant _ (List.getElem_mem _)
  have mark := endMarkOf_take source chain inside notEnd
  refine ⟨mark, fun isAll => ?_⟩
  have behind : before.length ≤ index + 1 := by
    rw [isAll, List.length_append, List.length_singleton, Nat.add_sub_cancel]
  rw [List.getElem_append_right behind, List.getElem_singleton] at mark
  rw [List.getLast?_concat]
  exact congrArg some mark.symm

/-- Behind a word of two bytes a letter and a string over two lines that is never closed. -/
theorem endMark_ofTokens_take_openString :
    ∃ (tokens : List Token) (inside : 3 < tokens.length),
      tokenize "é 'a\né".toList = .ok tokens ∧
      1 ≤ 3 ∧
      (ofTokens "é 'a\né".toList (tokens.take 3)).endMark =
        ⟨.endOfFile, ⟨tokens[3].span.start, 0⟩, tokens[3].location, []⟩ ∧
      (3 = tokens.length - 1 →
        tokens.getLast? = some (ofTokens "é 'a\né".toList (tokens.take 3)).endMark) := by
  have accepted : tokenize "é 'a\né".toList = .ok (tokensOf "é 'a\né".toList) := rfl
  have inside : 3 < (tokensOf "é 'a\né".toList).length := by decide +kernel
  exact ⟨_, inside, accepted, by decide, endMark_ofTokens_take accepted (by decide) inside⟩

end TokenStream
end SqlLexer
