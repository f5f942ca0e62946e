import Mathlib.Data.List.DropRight
import SqlLexer.Proofs.Lexeme.Lookahead
import SqlLexer.Proofs.Placement

/-!
# Sources that go on

When text is put behind a source, at most the last three of its tokens change.  All tokens before
them are tokens of the longer source as well, in the same places.
-/

namespace SqlLexer

open Lexeme (first_next)

/-- All lexemes of a text but the last three are lexemes of the text with more behind it. -/
theorem rdrop_lexemes_initial (text more : Text) :
    (lexemes text).rdrop 3 <+: lexemes (text ++ more) := by
  fun_induction lexemes text with
  | case1 => exact List.nil_prefix
  | case2 c rest lexeme inductionHypothesis =>
      have first := first_next c rest
      obtain ⟨behind, split⟩ := first.text_initial
      change lexeme.text ++ behind = c :: rest at split
      change Lexeme.First (c :: rest) lexeme at first
      rw [← split, List.drop_left] at inductionHypothesis ⊢
      rw [← split] at first
      rcases Nat.lt_or_ge (lexemes behind).length 3 with near | far
      · rw [List.rdrop, List.take_eq_nil_iff.mpr (.inl (by rw [List.length_cons]; omega))]
        exact List.nil_prefix
      · have still := first.append far more
        have shorter :
            (lexeme :: lexemes behind).rdrop 3 = lexeme :: (lexemes behind).rdrop 3 := by
          rw [List.rdrop, List.rdrop, List.length_cons, Nat.sub_add_comm far,
            List.take_succ_cons]
        rw [shorter, still.lexemes_eq (List.append_assoc _ _ _).symm, List.cons_prefix_cons]
        exact ⟨rfl, inductionHypothesis⟩

/-- The tokens other than the end mark. -/
def Token.unmarked (tokens : List Token) : List Token :=
  tokens.filter fun token => token.kind ≠ .endOfFile

/-- There are as many tokens before the end mark as there are lexemes. -/
theorem length_unmarked_tokensOf (source : Text) :
    (Token.unmarked (tokensOf source)).length = (lexemes source).length := by
  rw [← contents_tokensOf, Token.contents, List.length_map]
  rfl

/-- The end mark stands behind the tokens of the lexemes. -/
theorem unmarked_placeLexemes
    (offset : Nat)
    (location : Location)
    {pieces : List Lexeme}
    (noMark : ∀ piece ∈ pieces, piece.kind ≠ .endOfFile) :
    Token.unmarked (placeLexemes offset location pieces) =
      (placeLexemes offset location pieces).take pieces.length := by
  induction pieces generalizing offset location with
  | nil => rfl
  | cons piece rest inductionHypothesis =>
      rw [List.forall_mem_cons] at noMark
      rw [Token.unmarked, placeLexemes_cons, List.filter_cons_of_pos (by simpa using noMark.1),
        List.length_cons, List.take_succ_cons]
      exact congrArg _ (inductionHypothesis _ _ noMark.2)

/-- Lexemes that two rows begin with stand in the same places in both. -/
theorem take_placeLexemes_initial
    (offset : Nat)
    (location : Location)
    {pieces others : List Lexeme}
    {count : Nat}
    (fits : count ≤ pieces.length)
    (initial : pieces.take count <+: others) :
    (placeLexemes offset location pieces).take count <+: placeLexemes offset location others := by
  induction count generalizing offset location pieces others with
  | zero => exact List.nil_prefix
  | succ count inductionHypothesis =>
      obtain ⟨piece, pieces, rfl⟩ := List.exists_cons_of_length_pos (Nat.zero_lt_of_lt fits)
      rw [List.take_succ_cons] at initial
      obtain ⟨after, rfl⟩ := initial
      have later := inductionHypothesis (offset + Text.byteLength piece.text)
        (location.walk piece.text) (Nat.le_of_succ_le_succ fits) (List.prefix_append _ after)
      rw [List.cons_append, placeLexemes_cons, placeLexemes_cons, List.take_succ_cons,
        List.cons_prefix_cons]
      exact ⟨rfl, later⟩

/-- Text behind a source changes no token of the source but the last three, the end mark not
counted. -/
theorem rdrop_unmarked_initial
    {source : Text}
    {tokens : List Token}
    (accepted : tokenize source = .ok tokens)
    (more : Text) :
    ∃ extended, tokenize (source ++ more) = .ok extended ∧
      (Token.unmarked tokens).rdrop 3 <+: extended := by
  obtain ⟨⟨c, member, solid⟩, rfl⟩ := (tokenize_eq_ok_iff _ _).mp accepted
  refine ⟨tokensOf (source ++ more), ?_, ?_⟩
  · exact (tokenize_eq_ok_iff _ _).mpr ⟨⟨c, List.mem_append_left more member, solid⟩, rfl⟩
  · have allButThree : (Token.unmarked (tokensOf source)).rdrop 3 =
        (tokensOf source).take ((lexemes source).length - 3) := by
      rw [List.rdrop, length_unmarked_tokensOf, tokensOf,
        unmarked_placeLexemes _ _ (kind_ne_endOfFile_of_mem_lexemes source), List.take_take,
        Nat.min_eq_left (Nat.sub_le _ _)]
    rw [allButThree]
    exact take_placeLexemes_initial _ _ (Nat.sub_le _ _) (rdrop_lexemes_initial source more)

/-- A numeral, a word and a sign that a digit makes one numeral. -/
theorem rdrop_unmarked_initial_exponent :
    ∃ tokens, tokenize "a 1e+".toList = .ok tokens ∧
      ∃ extended, tokenize ("a 1e+".toList ++ "5".toList) = .ok extended ∧
        (Token.unmarked tokens).rdrop 3 <+: extended := by
  have accepted : tokenize "a 1e+".toList = .ok (tokensOf "a 1e+".toList) := rfl
  exact ⟨_, accepted, rdrop_unmarked_initial accepted "5".toList⟩

-- The numeral is the third token from the end, so no smaller bound holds.
example : ¬ (tokensOf "a 1e+".toList).take 3 <+: tokensOf "a 1e+5".toList := by
  decide +kernel

end SqlLexer
